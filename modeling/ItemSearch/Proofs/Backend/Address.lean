import ItemSearch.Backend.Options
import ItemSearch.Proofs.Outcome
import ItemSearch.Proofs.Text.Lower
import ItemSearch.Proofs.Text.Split
import ItemSearch.Proofs.Url.Parts

/-!
The parts of an address. `WrittenAddress` holds the parts of an address as they are written, each
free of the characters that would end it, and the lemmas about it say what is found of each part
where the address is read. Hosts are found in lower case, and without the brackets that may be
around them.
-/

namespace ItemSearch

open Text

namespace Address

/-! ### Cutting a text -/

/-- The text of an address without what is passed over. -/
def cleaned (url : String) : List Char :=
  (url.toList.dropWhile Url.isControlOrSpace).filter fun c => !Url.isTabOrBreak c

/-- The character does not end an authority. -/
def InAuthority (c : Char) : Prop := c ≠ '/' ∧ c ≠ '?' ∧ c ≠ '#'

instance : DecidablePred InAuthority := fun c =>
  inferInstanceAs (Decidable (c ≠ '/' ∧ c ≠ '?' ∧ c ≠ '#'))

/-- What stands behind the authority, in the text behind the scheme. -/
def pathOf : List Char → List Char
  | '/' :: '/' :: rest => rest.dropWhile fun c => c ≠ '/' && c ≠ '?' && c ≠ '#'
  | s => s

/-- The text can be an authority: an address stands in its brackets, if it has any, and no
character is read as one of those that separate the parts. -/
structure IsAuthority (authority : List Char) : Prop where
  brackets : checkBrackets authority = .ok ()
  undisguised : ∀ c ∈ authority, c.toNat ∉ disguisedChars

theorem parse_eq_ok_iff {url : String} {a : Address} :
    parse url = .ok a ↔ IsAuthority (authorityOf (cutScheme (cleaned url)).2) ∧
      a = ⟨(cutScheme (cleaned url)).1,
        String.ofList (authorityOf (cutScheme (cleaned url)).2)⟩ := by
  unfold parse
  simp only [bind_eq_ok_iff]
  rw [← cleaned]
  generalize cutScheme (cleaned url) = cut
  constructor
  · rintro ⟨⟨⟩, hbrackets, h⟩
    split at h
    · obtain ⟨_, herror, -⟩ := bind_eq_ok_iff.mp h
      simp at herror
    · next hdisguised =>
        refine ⟨⟨hbrackets, ?_⟩, (pure_eq_ok_iff.mp h).symm⟩
        simpa using hdisguised
  · rintro ⟨⟨hbrackets, hundisguised⟩, rfl⟩
    refine ⟨(), hbrackets, ?_⟩
    rw [if_neg (by simpa using hundisguised)]
    rfl

/-- A scheme is a letter and more characters of a scheme. -/
def IsScheme (s : List Char) : Prop :=
  (∃ c rest, s = c :: rest ∧ Url.isLetter c = true) ∧ ∀ c ∈ s, Url.isSchemeChar c = true

theorem cutScheme_append {scheme : List Char} (h : IsScheme scheme) (rest : List Char) :
    cutScheme (scheme ++ ':' :: rest) = (String.ofList (scheme.map Char.toLower), rest) := by
  obtain ⟨⟨c, s, rfl, hletter⟩, hchars⟩ := h
  have hcolon : ':' ∉ c :: s := fun hmem => absurd (hchars ':' hmem) (by decide)
  have hall : (c :: s).all Url.isSchemeChar = true := List.all_eq_true.mpr hchars
  rw [cutScheme, Url.scheme?, cutChars?_append hcolon]
  simp [hletter, hall]

variable {authority path : List Char}

/-- What stands behind the last character that is taken. -/
theorem takeWhile_dropWhile_append {p : Char → Bool} {s t : List Char} (hs : ∀ c ∈ s, p c = true)
    (ht : ∀ c ∈ t.head?, p c = false) :
    (s ++ t).takeWhile p = s ∧ (s ++ t).dropWhile p = t := by
  rw [List.takeWhile_append_of_pos hs, List.dropWhile_append_of_pos hs]
  cases t with
  | nil => simp
  | cons c t => simp [ht c rfl]

theorem inAuthority_iff {c : Char} : (c ≠ '/' && c ≠ '?' && c ≠ '#') = true ↔ InAuthority c := by
  simp [InAuthority, and_assoc]

/-- The authority and what stands behind it. -/
theorem authorityOf_append (h : ∀ c ∈ authority, InAuthority c)
    (hpath : ∀ c ∈ path.head?, ¬ InAuthority c) :
    authorityOf ('/' :: '/' :: (authority ++ path)) = authority ∧
      pathOf ('/' :: '/' :: (authority ++ path)) = path :=
  takeWhile_dropWhile_append (fun c hc => inAuthority_iff.mpr (h c hc))
    fun c hc => Bool.eq_false_iff.mpr fun hmem => hpath c hc (inAuthority_iff.mp hmem)

theorem userAndPlace_append {user place : List Char} (h : '@' ∉ place) :
    userAndPlace (user ++ '@' :: place) = (some user, place) := Url.cutUser_append h

theorem userAndPlace_of_not_mem (h : '@' ∉ authority) :
    userAndPlace authority = (none, authority) := Url.cutUser_of_not_mem h

/-- Neither the colon nor a digit separates other parts than the host and the port. -/
theorem free_of_portChar {c : Char} (h : c = ':' ∨ isAsciiDigit c = true) :
    c ∉ ['@', '[', ']'] ∧ InAuthority c := by
  rcases h with rfl | hdigit
  · exact ⟨by decide, by decide, by decide, by decide⟩
  · have hnot : ∀ d, isAsciiDigit d = false → c ≠ d := by
      rintro d hd rfl
      rw [hdigit] at hd
      exact Bool.noConfusion hd
    refine ⟨?_, hnot _ (by decide), hnot _ (by decide), hnot _ (by decide)⟩
    simp [hnot '@' (by decide), hnot '[' (by decide), hnot ']' (by decide)]

/-- The host and the port in what stands behind the user. -/
def cutPlace (place : List Char) : List Char × List Char :=
  match cutChars? '[' place with
  | some (_, rest) =>
    let (host, behind) := (cutChars? ']' rest).getD (rest, [])
    (host, ((cutChars? ':' behind).map Prod.snd).getD [])
  | none => (cutChars? ':' place).getD (place, [])

/-- An empty text is no port. -/
def portOf (s : List Char) : Option String := if s.isEmpty then none else some (String.ofList s)

theorem hostAndPort_eq (a : Address) {user : Option (List Char)} {place : List Char}
    (h : userAndPlace a.authority.toList = (user, place)) :
    a.hostAndPort = (String.ofList (cutPlace place).1, portOf (cutPlace place).2) := by
  simp only [hostAndPort, h]
  cases hcut : cutChars? '[' place with
  | none => simp only [cutPlace, portOf, hcut]
  | some parts => simp only [cutPlace, portOf, hcut]

theorem cutPlace_bracketed {address : List Char} (h : ']' ∉ address) (behind : List Char) :
    cutPlace ('[' :: (address ++ ']' :: behind)) =
      (address, ((cutChars? ':' behind).map Prod.snd).getD []) := by
  have hopen : cutChars? '[' ('[' :: (address ++ ']' :: behind)) =
      some ([], address ++ ']' :: behind) := by
    simp [cutChars?]
  rw [cutPlace, hopen]
  simp only [cutChars?_append h, Option.getD_some]

theorem cutPlace_of_not_mem {place : List Char} (h : '[' ∉ place) :
    cutPlace place = (cutChars? ':' place).getD (place, []) := by
  rw [cutPlace, cutChars?_eq_none_iff.mpr h]

/-- Outside of brackets there is no colon in a host. -/
theorem colon_not_mem_cutPlace {place : List Char} (h : '[' ∉ place) :
    ':' ∉ (cutPlace place).1 := by
  rw [cutPlace_of_not_mem h]
  cases hcut : cutChars? ':' place with
  | none => exact cutChars?_eq_none_iff.mp hcut
  | some parts => exact (cutChars?_eq_some_iff.mp hcut).2

/-! ### Hosts -/

/-- A host in lower case, apart from the zone of an address. -/
def lowerHost (s : List Char) : List Char :=
  match cutChars? '%' s with
  | some (name, zone) => lowerFrom false name ++ '%' :: zone
  | none => lowerFrom false s

theorem lowerHost_append {name : List Char} (h : '%' ∉ name) (zone : List Char) :
    lowerHost (name ++ '%' :: zone) = lowerFrom false name ++ '%' :: zone := by
  rw [lowerHost, cutChars?_append h]

theorem lowerHost_of_not_mem {s : List Char} (h : '%' ∉ s) : lowerHost s = lowerFrom false s := by
  rw [lowerHost, cutChars?_eq_none_iff.mpr h]

/-- A host has a zone behind its first percent sign, or has none. -/
theorem exists_zone (s : List Char) :
    '%' ∉ s ∨ ∃ name zone, '%' ∉ name ∧ s = name ++ '%' :: zone := by
  cases hcut : cutChars? '%' s with
  | none => exact Or.inl (cutChars?_eq_none_iff.mp hcut)
  | some parts =>
      obtain ⟨hs, hname⟩ := cutChars?_eq_some_iff.mp hcut
      exact Or.inr ⟨_, _, hname, hs⟩

theorem host_eq (a : Address) : a.host = String.ofList (lowerHost a.hostAndPort.1.toList) := by
  unfold host
  generalize a.hostAndPort.1 = host
  rcases exists_zone host.toList with hnone | ⟨name, zone, hname, hhost⟩
  · have hcut : cut? '%' host = none := by
      rw [cut?, cutChars?_eq_none_iff.mpr hnone, Option.map_none]
    simp only [hcut, lowerHost_of_not_mem hnone, lower]
  · have hcut : cut? '%' host = some (String.ofList name, String.ofList zone) := by
      rw [cut?, hhost, cutChars?_append hname, Option.map_some]
    rw [hhost, lowerHost_append hname]
    simp [hcut, lower, String.ofList_append, String.append_assoc]

/-- The characters that separate the parts of an address, or are passed over in it. -/
def separators : List Char := ['/', '?', '#', '@', '[', ']', ':', '%', '\t', '\n', '\r']

theorem isCaseless_of_separator : ∀ c ∈ separators, IsCaseless c := by
  have halone : ∀ c ∈ separators, hasOtherCase c = false := forall_mem_of_all (by decide +kernel)
  have hmade : ∀ c ∈ separators, c ∉ ['\x00', '\u0130', '\u0307', '\u03c2'] :=
    forall_mem_of_all (by decide)
  exact fun c hc => ⟨halone c hc, hmade c hc⟩

theorem mem_lowerHost_iff {s : List Char} {c : Char} (hc : IsCaseless c) :
    c ∈ lowerHost s ↔ c ∈ s := by
  rcases exists_zone s with hnone | ⟨name, zone, hname, rfl⟩
  · rw [lowerHost_of_not_mem hnone, mem_lowerFrom_iff hc]
  · rw [lowerHost_append hname]
    simp only [List.mem_append, mem_lowerFrom_iff hc]

theorem lowerHost_lowerHost (s : List Char) : lowerHost (lowerHost s) = lowerHost s := by
  have hpercent : ∀ t, '%' ∉ t → '%' ∉ lowerFrom false t := fun t ht hmem =>
    ht ((mem_lowerFrom_iff (isCaseless_of_separator '%' (by decide))).mp hmem)
  rcases exists_zone s with hnone | ⟨name, zone, hname, rfl⟩
  · rw [lowerHost_of_not_mem hnone, lowerHost_of_not_mem (hpercent s hnone), lowerFrom_lowerFrom]
  · rw [lowerHost_append hname, lowerHost_append (hpercent name hname), lowerFrom_lowerFrom]

theorem colon_mem_of_cutOmission? {s : List Char} {parts : List Char × List Char}
    (h : Url.Ipv6.cutOmission? s = some parts) : ':' ∈ s := by
  fun_induction Url.Ipv6.cutOmission? s generalizing parts with
  | case1 => exact List.mem_cons_self ..
  | case2 c rest _ ih =>
      obtain ⟨_, hrest, -⟩ := Option.map_eq_some_iff.mp h
      exact List.mem_cons_of_mem c (ih hrest)
  | case3 => simp at h

/-- Without a colon there is one group, or there are two that are written as four bytes. -/
theorem colon_mem_of_isAddress {s : List Char} (h : Url.Ipv6.isAddress s = true) : ':' ∈ s := by
  unfold Url.Ipv6.isAddress at h
  split at h
  · next hcut => exact colon_mem_of_cutOmission? hcut
  · apply Decidable.byContradiction
    intro hcolon
    rw [decide_eq_true_eq, Url.Ipv6.groups?, splitChars_of_not_mem hcolon] at h
    split at h
    · simp at h
    · simp only [Url.Ipv6.countGroups?] at h
      split at h
      · simp at h
      · split at h <;> simp at h

/-- An address of eight groups has a colon in it, in front of its zone. -/
theorem colon_mem_of_isLongAddress {s : List Char} (h : isLongAddress s = true) : ':' ∈ s := by
  unfold isLongAddress at h
  split at h
  · next address zone hcut =>
      obtain ⟨rfl, -⟩ := cutChars?_eq_some_iff.mp hcut
      simp only [Bool.and_eq_true] at h
      exact List.mem_append_left _ (colon_mem_of_isAddress h.1.1)
  · exact colon_mem_of_isAddress h

end Address

/-! ### Written addresses -/

/-- The host of an address as it is written. -/
inductive WrittenHost where
  /-- a name, or an address of four bytes -/
  | named (name : List Char)
  /-- an address of eight groups in brackets -/
  | bracketed (address : List Char)

namespace WrittenHost

/-- The host without brackets. -/
def bare : WrittenHost → List Char
  | named name => name
  | bracketed address => address

def text : WrittenHost → List Char
  | named name => name
  | bracketed address => '[' :: (address ++ [']'])

/-- No colon is in a name, and a longer address stands in brackets. -/
def IsHost : WrittenHost → Prop
  | named name => ':' ∉ name
  | bracketed address => Address.isLongAddress address = true

end WrittenHost

/-- The text is the number of a port. -/
structure IsPortNumber (s : List Char) : Prop where
  ne_nil : s ≠ []
  digits : ∀ c ∈ s, isAsciiDigit c = true
  short : s.length ≤ maxDigits
  inRange : asciiValue s ≤ 65535

/-- The parts of an address as they are written. A user comes with a password. -/
structure WrittenAddress where
  scheme : List Char
  userInfo : Option (List Char × List Char)
  host : WrittenHost
  port : Option (List Char)
  path : List Char
  isScheme : Address.IsScheme scheme
  user_free : ∀ info ∈ userInfo, ∀ c ∈ info.1, c ≠ ':' ∧ Address.InAuthority c
  password_free : ∀ info ∈ userInfo, ∀ c ∈ info.2, Address.InAuthority c
  isHost : host.IsHost
  host_free : ∀ c ∈ host.bare, c ∉ ['@', '[', ']'] ∧ Address.InAuthority c
  isPort : ∀ digits ∈ port, IsPortNumber digits
  path_first : ∀ c ∈ path.head?, ¬ Address.InAuthority c

namespace WrittenAddress

variable (w : WrittenAddress)

def userText : List Char :=
  match w.userInfo with
  | some (user, password) => user ++ ':' :: (password ++ ['@'])
  | none => []

def portText : List Char :=
  match w.port with
  | some digits => ':' :: digits
  | none => []

/-- The host and the port. -/
def place : List Char := w.host.text ++ w.portText

def authority : List Char := w.userText ++ w.place

def text : List Char := w.scheme ++ ':' :: '/' :: '/' :: (w.authority ++ w.path)

theorem mem_portText {c : Char} (h : c ∈ w.portText) : c = ':' ∨ isAsciiDigit c = true := by
  unfold portText at h
  split at h
  · next digits hport =>
      rcases List.mem_cons.mp h with rfl | hdigit
      · exact Or.inl rfl
      · exact Or.inr ((w.isPort digits hport).digits c hdigit)
  · simp at h

theorem portText_free {c : Char} (h : c ∈ w.portText) :
    c ∉ ['@', '[', ']'] ∧ Address.InAuthority c :=
  Address.free_of_portChar (w.mem_portText h)

theorem mem_place {c : Char} (h : c ∈ w.place) :
    c = '[' ∨ c = ']' ∨ c ∈ w.host.bare ∨ c ∈ w.portText := by
  rcases List.mem_append.mp h with hhost | hport
  · cases hw : w.host with
    | named name =>
        rw [hw] at hhost
        exact Or.inr (Or.inr (Or.inl hhost))
    | bracketed address =>
        rw [hw] at hhost
        simp only [WrittenHost.text, List.mem_cons, List.mem_append, List.not_mem_nil,
          or_false] at hhost
        rcases hhost with rfl | hmem | rfl
        · exact Or.inl rfl
        · exact Or.inr (Or.inr (Or.inl hmem))
        · exact Or.inr (Or.inl rfl)
  · exact Or.inr (Or.inr (Or.inr hport))

theorem at_not_mem_place : '@' ∉ w.place := by
  intro h
  rcases w.mem_place h with h | h | h | h
  · exact absurd h (by decide)
  · exact absurd h (by decide)
  · exact (w.host_free '@' h).1 (by decide)
  · exact (w.portText_free h).1 (by decide)

theorem inAuthority {c : Char} (h : c ∈ w.authority) : Address.InAuthority c := by
  rcases List.mem_append.mp h with huser | hplace
  · unfold userText at huser
    split at huser
    · next user password hinfo =>
        simp only [List.mem_append, List.mem_cons, List.not_mem_nil, or_false] at huser
        rcases huser with hmem | rfl | hmem | rfl
        · exact (w.user_free _ hinfo c hmem).2
        · exact ⟨by decide, by decide, by decide⟩
        · exact w.password_free _ hinfo c hmem
        · exact ⟨by decide, by decide, by decide⟩
    · simp at huser
  · rcases w.mem_place hplace with rfl | rfl | hhost | hport
    · exact ⟨by decide, by decide, by decide⟩
    · exact ⟨by decide, by decide, by decide⟩
    · exact (w.host_free c hhost).2
    · exact (w.portText_free hport).2

/-- The scheme in lower case. -/
def lowerScheme : List Char := w.scheme.map Char.toLower

/-- The address that is read. -/
def address : Address := ⟨String.ofList w.lowerScheme, String.ofList w.authority⟩

theorem cutScheme_text :
    Address.cutScheme w.text =
      (String.ofList w.lowerScheme, '/' :: '/' :: (w.authority ++ w.path)) :=
  Address.cutScheme_append w.isScheme _

/-- Where an address is read, its parts are where they have been written. -/
theorem parse_eq_ok_iff {url : String} (h : Address.cleaned url = w.text) {a : Address} :
    Address.parse url = .ok a ↔ Address.IsAuthority w.authority ∧ a = w.address := by
  obtain ⟨hauthority, -⟩ := Address.authorityOf_append (fun _ => w.inAuthority) w.path_first
  rw [Address.parse_eq_ok_iff, h, cutScheme_text, hauthority, address]

theorem userAndPlace_address :
    Address.userAndPlace w.address.authority.toList =
      (w.userInfo.map fun info => info.1 ++ ':' :: info.2, w.place) := by
  rw [address, String.toList_ofList, authority, userText]
  cases w.userInfo with
  | none => exact Address.userAndPlace_of_not_mem w.at_not_mem_place
  | some info =>
      have hsplit : info.1 ++ ':' :: (info.2 ++ ['@']) ++ w.place =
          (info.1 ++ ':' :: info.2) ++ '@' :: w.place := by simp
      rw [hsplit, Address.userAndPlace_append w.at_not_mem_place, Option.map_some]

theorem cut?_userInfo {info : List Char × List Char} (h : info ∈ w.userInfo) :
    cut? ':' (String.ofList (info.1 ++ ':' :: info.2)) =
      some (String.ofList info.1, String.ofList info.2) := by
  have hcolon : ':' ∉ info.1 := fun hmem => (w.user_free info h ':' hmem).1 rfl
  rw [cut?, String.toList_ofList, cutChars?_append hcolon, Option.map_some]

theorem user?_address :
    w.address.user? = w.userInfo.map fun info => String.ofList info.1 := by
  rw [Address.user?, userAndPlace_address]
  cases hinfo : w.userInfo with
  | none => rfl
  | some info =>
      rw [Option.map_some, Option.map_some, before, w.cut?_userInfo hinfo]
      rfl

theorem password?_address :
    w.address.password? = w.userInfo.map fun info => String.ofList info.2 := by
  rw [Address.password?, userAndPlace_address]
  cases hinfo : w.userInfo with
  | none => rfl
  | some info =>
      simp only [Option.map_some, Option.bind_eq_bind, Option.bind_some, w.cut?_userInfo hinfo]
      rfl

/-- What stands behind a host is cut at the colon of the port. -/
theorem cutChars?_portText :
    cutChars? ':' w.portText = w.port.map fun digits => ([], digits) := by
  cases hport : w.port with
  | none => simp [portText, hport, cutChars?]
  | some digits => simp [portText, hport, cutChars?]

theorem portOf_port : Address.portOf (w.port.getD []) = w.port.map String.ofList := by
  cases hport : w.port with
  | none => rfl
  | some digits => simp [Address.portOf, (w.isPort digits hport).ne_nil]

theorem cutPlace_place : Address.cutPlace w.place = (w.host.bare, w.port.getD []) := by
  have hport : ((cutChars? ':' w.portText).map Prod.snd).getD [] = w.port.getD [] := by
    rw [cutChars?_portText]
    cases w.port <;> rfl
  have hfree := w.host_free
  have hhost := w.isHost
  unfold place
  cases hw : w.host with
  | named name =>
      rw [hw] at hfree hhost
      have hopen : '[' ∉ name ++ w.portText := by
        rw [List.mem_append, not_or]
        exact ⟨fun hmem => (hfree '[' hmem).1 (by decide),
          fun hmem => (w.portText_free hmem).1 (by decide)⟩
      rw [WrittenHost.text, Address.cutPlace_of_not_mem hopen, portText]
      cases w.port with
      | none => simp [cutChars?_eq_none_iff.mpr hhost, WrittenHost.bare]
      | some digits => simp [cutChars?_append hhost, WrittenHost.bare]
  | bracketed address =>
      rw [hw] at hfree
      have hclose : ']' ∉ address := fun hmem => (hfree ']' hmem).1 (by decide)
      rw [WrittenHost.text, List.cons_append, List.append_assoc, List.singleton_append,
        Address.cutPlace_bracketed hclose, hport, WrittenHost.bare]

theorem hostAndPort_address :
    w.address.hostAndPort = (String.ofList w.host.bare, w.port.map String.ofList) := by
  rw [Address.hostAndPort_eq _ w.userAndPlace_address, cutPlace_place, portOf_port]

theorem host_address : w.address.host = String.ofList (Address.lowerHost w.host.bare) := by
  rw [Address.host_eq, hostAndPort_address, String.toList_ofList]

theorem port?_address : w.address.port? = .ok (w.port.map asciiValue) := by
  rw [Address.port?, hostAndPort_address]
  cases hport : w.port with
  | none => rfl
  | some digits =>
      have hdigits := w.isPort digits hport
      have hall : digits.all isAsciiDigit = true := List.all_eq_true.mpr hdigits.digits
      have hshort := Nat.not_lt_of_le hdigits.short
      have hrange := Nat.not_lt_of_le hdigits.inRange
      simp [hall, hshort, hrange]

end WrittenAddress

end ItemSearch
