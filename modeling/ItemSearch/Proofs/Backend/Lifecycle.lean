import ItemSearch.ServerState
import Mathlib.Data.List.Induction

/-!
The lives of the clients that are kept, one after the other, through any number of gets and closes,
where every construction and every closing may fail. A call leaves everything as it is, or
constructs one client where none is kept and keeps it, or closes the one that is kept. So the
clients that have been constructed are those that have been closed, in that order, and then the one
that is kept, if there is one. This is the invariant, and that no client is lost, closed twice or
given out after it has been closed is read off it.
-/

namespace ItemSearch

namespace ClientCache

/-- A call, with what comes of the construction or the closing that it may have to try. -/
inductive Action (ε : Type) where
  | get (construction : Except ε Unit)
  | close (closing : Except ε Unit)

variable {ε : Type}

def after (c : ClientCache) : Action ε → ClientCache
  | .get construction => (c.get construction).2
  | .close closing => (c.close closing).2

/-- What has come of the calls, one after the other. -/
def run (c : ClientCache) (actions : List (Action ε)) : ClientCache := actions.foldl after c

theorem run_cons (c : ClientCache) (a : Action ε) (actions : List (Action ε)) :
    c.run (a :: actions) = (c.after a).run actions := rfl

/-! ### One call -/

theorem get_of_kept {c : ClientCache} {n : Nat} (h : c.kept = some n)
    (construction : Except ε Unit) : c.get construction = (.ok n, c) := by
  simp only [get, h]

theorem get_ok_of_empty {c : ClientCache} (h : c.kept = none) :
    c.get (.ok () : Except ε Unit) =
      (.ok c.constructed.length,
        ⟨some c.constructed.length, c.constructed ++ [c.constructed.length], c.closed⟩) := by
  simp only [get, h, construct]

theorem get_error_of_empty {c : ClientCache} (h : c.kept = none) (e : ε) :
    c.get (.error e) = (.error e, c) := by
  simp only [get, h]

theorem close_of_empty {c : ClientCache} (h : c.kept = none) (closing : Except ε Unit) :
    c.close closing = (.ok (), c) := by
  simp only [close, h]

theorem close_ok_of_kept {c : ClientCache} {n : Nat} (h : c.kept = some n) :
    c.close (.ok () : Except ε Unit) = (.ok (), ⟨none, c.constructed, c.closed ++ [n]⟩) := by
  simp only [close, h, dispose]

theorem close_error_of_kept {c : ClientCache} {n : Nat} (h : c.kept = some n) (e : ε) :
    c.close (.error e) = (.error e, c) := by
  simp only [close, h]

/-- What is given out is kept from then on. -/
theorem kept_of_get_eq_ok {c : ClientCache} {construction : Except ε Unit} {n : Nat}
    (h : (c.get construction).1 = .ok n) : (c.get construction).2.kept = some n := by
  cases hkept : c.kept with
  | some m =>
      rw [get_of_kept hkept] at h ⊢
      rw [hkept, Except.ok.inj h]
  | none =>
      cases construction with
      | ok =>
          rw [get_ok_of_empty hkept] at h ⊢
          rw [Except.ok.inj h]
      | error e =>
          rw [get_error_of_empty hkept] at h
          exact absurd h (by simp)

/-- A call leaves everything as it is, or constructs a client where none is kept, or closes the
one that is kept. -/
theorem after_cases (c : ClientCache) (a : Action ε) :
    c.after a = c ∨
      (c.kept = none ∧ c.after a =
        ⟨some c.constructed.length, c.constructed ++ [c.constructed.length], c.closed⟩) ∨
      ∃ n, c.kept = some n ∧ c.after a = ⟨none, c.constructed, c.closed ++ [n]⟩ := by
  cases hkept : c.kept with
  | none =>
      cases a with
      | get construction =>
          cases construction with
          | ok => exact Or.inr (Or.inl ⟨rfl, by rw [after, get_ok_of_empty hkept]⟩)
          | error e => exact Or.inl (by rw [after, get_error_of_empty hkept])
      | close closing => exact Or.inl (by rw [after, close_of_empty hkept])
  | some n =>
      cases a with
      | get construction => exact Or.inl (by rw [after, get_of_kept hkept])
      | close closing =>
          cases closing with
          | ok => exact Or.inr (Or.inr ⟨n, rfl, by rw [after, close_ok_of_kept hkept]⟩)
          | error e => exact Or.inl (by rw [after, close_error_of_kept hkept])

/-! ### Any number of calls -/

/-- The clients that have been constructed are numbered from zero on. They are those that have been
closed and then the one that is kept. -/
structure Sound (c : ClientCache) : Prop where
  constructed_eq : c.constructed = c.closed ++ c.kept.toList
  numbered : c.constructed = List.range c.constructed.length

theorem Sound.after {c : ClientCache} (hs : c.Sound) (a : Action ε) : (c.after a).Sound := by
  rcases c.after_cases a with heq | ⟨hkept, heq⟩ | ⟨n, hkept, heq⟩
  · rw [heq]
    exact hs
  · have hall := hs.constructed_eq
    rw [hkept, Option.toList_none, List.append_nil] at hall
    rw [heq]
    refine ⟨?_, ?_⟩
    · show c.constructed ++ [c.constructed.length] = c.closed ++ [c.constructed.length]
      rw [← hall]
    · show c.constructed ++ [c.constructed.length] =
        List.range (c.constructed ++ [c.constructed.length]).length
      rw [List.length_append, List.length_singleton, List.range_succ, ← hs.numbered]
  · have hall := hs.constructed_eq
    rw [hkept] at hall
    rw [heq]
    refine ⟨?_, hs.numbered⟩
    show c.constructed = c.closed ++ [n] ++ []
    rw [List.append_nil]
    exact hall

theorem Sound.run {c : ClientCache} (hs : c.Sound) (actions : List (Action ε)) :
    (c.run actions).Sound := by
  induction actions generalizing c with
  | nil => exact hs
  | cons a actions ih => exact ih (hs.after a)

/-- No two of the clients that have been constructed are the same. -/
theorem Sound.nodup {c : ClientCache} (hs : c.Sound) : c.constructed.Nodup := by
  rw [hs.numbered]
  exact List.nodup_range

/-- Nor are two of those that have been closed or are kept. -/
theorem Sound.nodup_append {c : ClientCache} (hs : c.Sound) :
    (c.closed ++ c.kept.toList).Nodup :=
  hs.constructed_eq ▸ hs.nodup

theorem Sound.not_mem_closed {c : ClientCache} (hs : c.Sound) {n : Nat}
    (hkept : c.kept = some n) : n ∉ c.closed := by
  intro hclosed
  have hnodup := hs.nodup_append
  rw [hkept, List.nodup_append] at hnodup
  exact hnodup.2.2 n hclosed n (List.mem_singleton_self n) rfl

/-- The one client that has been constructed and has not been closed is the one that is kept. -/
theorem Sound.open_iff {c : ClientCache} (hs : c.Sound) (n : Nat) :
    n ∈ c.constructed ∧ n ∉ c.closed ↔ c.kept = some n := by
  constructor
  · rintro ⟨hconstructed, hclosed⟩
    rw [hs.constructed_eq, List.mem_append] at hconstructed
    exact Option.mem_toList.mp (hconstructed.resolve_left hclosed)
  · intro hkept
    refine ⟨?_, hs.not_mem_closed hkept⟩
    rw [hs.constructed_eq, hkept]
    simp

theorem closed_prefix_after (c : ClientCache) (a : Action ε) : c.closed <+: (c.after a).closed := by
  rcases c.after_cases a with heq | ⟨-, heq⟩ | ⟨n, -, heq⟩
  · exact ⟨[], by rw [heq, List.append_nil]⟩
  · exact ⟨[], by rw [heq, List.append_nil]⟩
  · exact ⟨[n], by rw [heq]⟩

theorem closed_prefix_run (c : ClientCache) (actions : List (Action ε)) :
    c.closed <+: (c.run actions).closed := by
  induction actions generalizing c with
  | nil => exact List.prefix_rfl
  | cons a actions ih => exact (c.closed_prefix_after a).trans (ih (c.after a))

/-- A client is kept as long as nothing is closed. -/
theorem kept_of_closed_eq {c : ClientCache} {n : Nat} (hkept : c.kept = some n)
    {actions : List (Action ε)} (hclosed : (c.run actions).closed = c.closed) :
    (c.run actions).kept = some n := by
  induction actions generalizing c with
  | nil => exact hkept
  | cons a actions ih =>
      rw [run_cons] at hclosed ⊢
      rcases c.after_cases a with heq | ⟨hnone, -⟩ | ⟨m, -, heq⟩
      · rw [heq] at hclosed ⊢
        exact ih hkept hclosed
      · rw [hkept] at hnone
        exact absurd hnone (by simp)
      · -- what has been closed once stays so
        have hlength := ((c.after a).closed_prefix_run actions).length_le
        rw [hclosed, heq, List.length_append, List.length_singleton] at hlength
        omega

theorem closed_get (c : ClientCache) (construction : Except ε Unit) :
    (c.get construction).2.closed = c.closed := by
  cases hkept : c.kept with
  | some n => rw [get_of_kept hkept]
  | none =>
      cases construction with
      | ok => rw [get_ok_of_empty hkept]
      | error e => rw [get_error_of_empty hkept]

/-! ### The life of a client -/

/-- A get has to construct a client: it succeeds or fails as the construction does, and what it
gives out is the one client that it constructs. -/
def Constructs (ε : Type) (c : ClientCache) : Prop :=
  ∀ construction : Except ε Unit,
    (c.get construction).1.map (fun _ => ()) = construction ∧
      (c.get construction).2.constructed =
        c.constructed ++ (c.get construction).1.toOption.toList

/-- A close has to close the client: it succeeds or fails as the closing does. -/
def Closes (ε : Type) (c : ClientCache) (n : Nat) : Prop :=
  ∀ closing : Except ε Unit,
    (c.close closing).1 = closing ∧
      (c.close closing).2.closed = c.closed ++ (closing.toOption.map fun () => n).toList

theorem constructs_of_empty {c : ClientCache} (h : c.kept = none) : c.Constructs ε := by
  intro construction
  cases construction with
  | ok => simp [get_ok_of_empty h, Except.map, Except.toOption]
  | error e => simp [get_error_of_empty h, Except.map, Except.toOption]

theorem closes_of_kept {c : ClientCache} {n : Nat} (h : c.kept = some n) : c.Closes ε n := by
  intro closing
  cases closing with
  | ok => simp [close_ok_of_kept h, Except.toOption]
  | error e => simp [close_error_of_kept h, Except.toOption]

/-- How the clients stand after some calls, and what becomes of them in the calls that follow. -/
structure Orderly (ε : Type) (c : ClientCache) : Prop where
  /-- Each client is constructed once. -/
  nodup_constructed : c.constructed.Nodup
  /-- A client that has been constructed and not closed is the one that is kept. -/
  open_iff : ∀ n, n ∈ c.constructed ∧ n ∉ c.closed ↔ c.kept = some n
  /-- No client has been closed twice. -/
  nodup_closed : c.closed.Nodup
  /-- What a get gives out has not been closed. -/
  given_open : ∀ (construction : Except ε Unit) (n : Nat),
    (c.get construction).1 = .ok n → n ∉ c.closed
  /-- Two gets give out the same client if nothing is closed between them. -/
  given_same : ∀ (first second : Except ε Unit) (between : List (Action ε)) (n m : Nat),
    (c.get first).1 = .ok n →
      (c.run (.get first :: between)).closed = c.closed →
        ((c.run (.get first :: between)).get second).1 = .ok m → m = n
  /-- Where a construction has failed there is no client, and the next get tries again. -/
  construction_failed : c.kept = none → ∀ e : ε,
    (c.get (.error e)).1 = .error e ∧
      (c.get (.error e)).2.kept = none ∧
      (c.get (.error e)).2.Constructs ε
  /-- A client that could not be closed is kept, and the next close tries again. -/
  closing_failed : ∀ n, c.kept = some n → ∀ e : ε,
    (c.close (.error e)).1 = .error e ∧
      (c.close (.error e)).2.kept = some n ∧
      (c.close (.error e)).2.Closes ε n

/-- Gets and closes leave the clients in order, however many there are and whatever fails. -/
theorem orderly_run (actions : List (Action ε)) : (run {} actions).Orderly ε := by
  have hs : (run {} actions).Sound := Sound.run ⟨rfl, rfl⟩ actions
  generalize run {} actions = c at hs
  refine ⟨hs.nodup, hs.open_iff, ?_, ?_, ?_, ?_, ?_⟩
  · exact (List.nodup_append.mp hs.nodup_append).1
  · intro construction n hgiven
    -- what is given out is kept after the call, which closes nothing
    have hkept : (c.after (.get construction)).kept = some n := kept_of_get_eq_ok hgiven
    have hopen := (hs.after (.get construction)).not_mem_closed hkept
    rwa [after, closed_get] at hopen
  · intro first second between n m hfirst hclosed hsecond
    have hkept : (c.after (.get first)).kept = some n := kept_of_get_eq_ok hfirst
    have hstill : (c.run (.get first :: between)).kept = some n := by
      apply kept_of_closed_eq hkept
      rw [← run_cons, hclosed, after, closed_get]
    rw [get_of_kept hstill] at hsecond
    exact (Except.ok.inj hsecond).symm
  · intro hempty e
    rw [get_error_of_empty hempty]
    exact ⟨rfl, hempty, constructs_of_empty hempty⟩
  · intro n hkept e
    rw [close_error_of_kept hkept]
    exact ⟨rfl, hkept, closes_of_kept hkept⟩

/-- Two clients, of which the first could not be constructed or closed at once. -/
example : run {} [.get (.error "refused"), .get (.ok ()), .close (.error "timeout"),
      .get (.error "unused"), .close (.ok ()), .close (.ok ()), .get (.ok ())] =
    { kept := some 1, constructed := [0, 1], closed := [0] } := by decide

end ClientCache

/-! ### The server

Its clients are constructed from the settings and closed without fail, which is one of the ways for
the calls to go. -/

namespace ServerState

open ClientCache

/-- What may be asked of a server. -/
inductive Action where
  | getSettings
  | getClient
  | closeClient
  | setEnvironment (environment : Settings.Variables)
  | clearSettings

def after (p : ServerState) : Action → ServerState
  | .getSettings => p.getSettings.2
  | .getClient => p.getClient.2
  | .closeClient => p.closeClient
  | .setEnvironment environment => p.setEnvironment environment
  | .clearSettings => p.clearSettings

theorem clients_getSettings (p : ServerState) : p.getSettings.2.clients = p.clients := by
  unfold getSettings
  split
  · rfl
  · split <;> rfl

/-- The client comes from the cache, with whatever the settings make of a construction. -/
theorem exists_construction (p : ServerState) : ∃ construction : Except ClientError Unit,
    p.getClient.1 = (p.clients.get construction).1 ∧
      p.getClient.2.clients = (p.clients.get construction).2 := by
  cases hkept : p.clients.kept with
  | some n =>
      refine ⟨.ok (), ?_⟩
      rw [get_of_kept hkept]
      simp [getClient, hkept]
  | none =>
      refine ⟨do
        let options ← (BackendOptions.ofSettings (← p.getSettings.1)).mapError .address
        options.checkUrl, ?_⟩
      simp [getClient, hkept, clients_getSettings]

/-- One call to a server is one call on its cache, or none. -/
theorem exists_calls (p : ServerState) (a : Action) :
    ∃ calls : List (ClientCache.Action ClientError),
      (p.after a).clients = p.clients.run calls := by
  cases a with
  | getSettings => exact ⟨[], p.clients_getSettings⟩
  | getClient =>
      obtain ⟨construction, -, hclients⟩ := p.exists_construction
      exact ⟨[.get construction], hclients⟩
  | closeClient => exact ⟨[.close (.ok ())], rfl⟩
  | setEnvironment environment => exact ⟨[], rfl⟩
  | clearSettings => exact ⟨[], rfl⟩

/-- Whatever is asked of a server, its clients come of gets and closes. -/
theorem exists_run (actions : List Action) :
    ∃ calls : List (ClientCache.Action ClientError),
      (actions.foldl after {}).clients = run {} calls := by
  induction actions using List.reverseRecOn with
  | nil => exact ⟨[], rfl⟩
  | append_singleton actions a ih =>
      obtain ⟨earlier, hearlier⟩ := ih
      obtain ⟨calls, hcalls⟩ := (actions.foldl after {}).exists_calls a
      refine ⟨earlier ++ calls, ?_⟩
      show ((actions ++ [a]).foldl after {}).clients = run {} (earlier ++ calls)
      rw [List.foldl_append, List.foldl_cons, List.foldl_nil, hcalls, hearlier]
      exact List.foldl_append.symm

end ServerState

end ItemSearch
