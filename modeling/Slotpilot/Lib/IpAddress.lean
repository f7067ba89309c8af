import Slotpilot.Lib.Text

/-!
# Texts of IP addresses

The reader of IP addresses of the standard library: an IPv4 address is four decimal octets without leading zeros, and an
IPv6 address is eight hexadecimal groups, of which `::` leaves out some and an IPv4 address can be the last two.

* `parseIpAddr_v4`: an IPv4 address has one text only;
* `parseIpAddr_v6`: the text of an IPv6 address has a colon.
-/

set_option autoImplicit false

namespace Slotpilot.Lib

/-! ## Addresses -/

structure Ipv4Addr where
  one : UInt8
  two : UInt8
  three : UInt8
  four : UInt8
  deriving DecidableEq

structure Ipv6Addr where
  segments : Fin 8 → UInt16
  deriving DecidableEq

inductive IpAddr
  | v4 (address : Ipv4Addr)
  | v6 (address : Ipv6Addr)
  deriving DecidableEq

def IpAddr.isIpv6 : IpAddr → Bool
  | .v4 _ => false
  | .v6 _ => true

/-- The loopback addresses are `127.0.0.0/8` and `::1`. -/
def IpAddr.isLoopback : IpAddr → Bool
  | .v4 address => address.one == 127
  | .v6 address => decide (address.segments = fun i => if i = 7 then 1 else 0)

/-! ## Reading -/

/-- The value of a digit. -/
def toDigit (radix : Nat) (c : Char) : Option Nat :=
  let value :=
    if c.isDigit then c.toNat - 48 else if c.isLower then c.toNat - 87 else if c.isUpper then c.toNat - 55 else radix
  if value < radix then some value else none

/-- A number of at most `maxDigits` digits and at most `limit`. -/
def readNumber (radix maxDigits limit : Nat) (allowZeroPrefix : Bool) (text : List Char) : Option (Nat × List Char) :=
  let digits := text.takeWhile fun c => (toDigit radix c).isSome
  let value := digits.foldl (fun value c => value * radix + (toDigit radix c).getD 0) 0
  if digits = [] ∨ maxDigits < digits.length then none
  else if allowZeroPrefix = false ∧ digits.head? = some '0' ∧ 1 < digits.length then none
  else if value ≤ limit then some (value, text.dropWhile fun c => (toDigit radix c).isSome)
  else none

def readGivenChar (c : Char) : List Char → Option (List Char)
  | d :: rest => if d = c then some rest else none
  | [] => none

/-- The item with this index of a list with separators. -/
def readSeparator {α : Type} (separator : Char) (index : Nat) (inner : List Char → Option (α × List Char))
    (text : List Char) : Option (α × List Char) :=
  if 0 < index then (readGivenChar separator text).bind inner else inner text

def readOctet (text : List Char) : Option (UInt8 × List Char) :=
  (readNumber 10 3 255 false text).map fun (value, rest) => (UInt8.ofNat value, rest)

def readGroup (text : List Char) : Option (UInt16 × List Char) :=
  (readNumber 16 4 65535 true text).map fun (value, rest) => (UInt16.ofNat value, rest)

def readIpv4Addr (text : List Char) : Option (Ipv4Addr × List Char) := do
  let (one, rest) ← readSeparator '.' 0 readOctet text
  let (two, rest) ← readSeparator '.' 1 readOctet rest
  let (three, rest) ← readSeparator '.' 2 readOctet rest
  let (four, rest) ← readSeparator '.' 3 readOctet rest
  some (⟨one, two, three, four⟩, rest)

/-- The two groups of an IPv4 address. -/
def ipv4Groups (address : Ipv4Addr) : List UInt16 :=
  [UInt16.ofNat (address.one.toNat * 256 + address.two.toNat),
    UInt16.ofNat (address.three.toNat * 256 + address.four.toNat)]

/-- The groups from an index on, up to `remaining` of them; whether an IPv4 address ends them; and the rest. -/
def readGroups : (index remaining : Nat) → List Char → (List UInt16 × Bool) × List Char
  | _, 0, text => (([], false), text)
  | index, remaining + 1, text =>
    -- An IPv4 address takes two groups.
    match if 0 < remaining then readSeparator ':' index readIpv4Addr text else none with
    | some (address, rest) => ((ipv4Groups address, true), rest)
    | none =>
      match readSeparator ':' index readGroup text with
      | some (group, rest) =>
        let ((groups, ipv4), rest) := readGroups (index + 1) remaining rest
        ((group :: groups, ipv4), rest)
      | none => (([], false), text)

/-- The address with these first and last groups, and zeros between them. -/
def ofGroups (head tail : List UInt16) : Ipv6Addr where
  segments i := (head ++ List.replicate (8 - tail.length - head.length) 0 ++ tail).getD i 0

def readIpv6Addr (text : List Char) : Option (Ipv6Addr × List Char) := do
  let ((head, headIpv4), rest) := readGroups 0 8 text
  if head.length = 8 then some (ofGroups head [], rest)
  else if headIpv4 then none
  else
    let rest ← readGivenChar ':' rest
    let rest ← readGivenChar ':' rest
    -- At least one group is left out.
    let ((tail, _), rest) := readGroups 0 (8 - (head.length + 1)) rest
    some (ofGroups head tail, rest)

def readIpAddr (text : List Char) : Option (IpAddr × List Char) :=
  match readIpv4Addr text with
  | some (address, rest) => some (.v4 address, rest)
  | none => (readIpv6Addr text).map fun (address, rest) => (.v6 address, rest)

/-- The address with this text. -/
def parseIpAddr (text : List Char) : Option IpAddr :=
  match readIpAddr text with
  | some (address, []) => some address
  | _ => none

example : parseIpAddr "::1".toList = parseIpAddr "0:0:0:0:0:0:0.0.0.1".toList := by decide

example : parseIpAddr "1::2:3:4:5:6:7:8".toList = none := by decide

/-! ## Numbers -/

/-- The decimal digits. -/
theorem toDigit_ten (c : Char) : toDigit 10 c = if c.isDigit then some (c.toNat - 48) else none := by
  unfold toDigit
  by_cases hdigit : c.isDigit = true
  · obtain ⟨hmin, hmax⟩ := toNat_isDigit hdigit
    have hten : c.toNat - 48 < 10 := by omega
    simp [hdigit, hten]
  · rw [if_neg hdigit, if_neg hdigit]
    split_ifs with hlower hupper
    · simp only [Char.isLower, Bool.and_eq_true, decide_eq_true_eq, ge_iff_le, UInt32.le_iff_toNat_le] at hlower
      have hmin : 97 ≤ c.toNat := hlower.1
      rw [if_neg (by omega)]
    · simp only [Char.isUpper, decide_eq_true_eq, ge_iff_le, UInt32.le_iff_toNat_le] at hupper
      have hmin : 65 ≤ c.toNat := hupper.1
      rw [if_neg (by omega)]
    · rfl

/-- The value of decimal digits. -/
theorem foldl_toDigit {digits : List Char} (h : ∀ c ∈ digits, c.isDigit = true) (start : Nat) :
    digits.foldl (fun value c => value * 10 + (toDigit 10 c).getD 0) start = Nat.ofDigitChars 10 digits start := by
  induction digits generalizing start with
  | nil => rw [List.foldl_nil, Nat.ofDigitChars_nil]
  | cons c digits ih =>
    rw [List.foldl_cons, ih (fun d hd => h d (List.mem_cons_of_mem c hd)), ofDigitChars_cons, toDigit_ten,
      if_pos (h c List.mem_cons_self), Option.getD_some, Nat.mul_comm]

/-- A decimal number without leading zeros is read from its decimal text. -/
theorem readNumber_decimal {maxDigits limit value : Nat} {text rest : List Char}
    (h : readNumber 10 maxDigits limit false text = some (value, rest)) :
    text = Nat.toDigits 10 value ++ rest ∧ value ≤ limit := by
  have hisSome : (fun c => (toDigit 10 c).isSome) = Char.isDigit := by
    funext c
    rw [toDigit_ten]
    cases c.isDigit <;> rfl
  unfold readNumber at h
  rw [hisSome] at h
  dsimp only at h
  split_ifs at h with hsize hzero hlimit
  cases h
  refine ⟨?_, hlimit⟩
  have hdigits : ∀ c ∈ text.takeWhile Char.isDigit, c.isDigit = true := fun c hc => List.mem_takeWhile_imp hc
  rw [foldl_toDigit hdigits]
  cases htaken : text.takeWhile Char.isDigit with
  | nil => exact absurd (.inl htaken) hsize
  | cons c digits =>
    rw [htaken] at hdigits hzero
    have hfirst : c ≠ '0' ∨ digits = [] := by
      by_cases hc : c = '0'
      · subst hc
        simp only [List.head?_cons, true_and, List.length_cons, Nat.lt_add_left_iff_pos] at hzero
        exact .inr (List.length_eq_zero_iff.mp (Nat.eq_zero_of_not_pos hzero))
      · exact .inl hc
    rw [toDigits_ofDigitChars hdigits hfirst, ← htaken, List.takeWhile_append_dropWhile]

/-- What follows a number. -/
theorem readNumber_suffix {radix maxDigits limit value : Nat} {allowZeroPrefix : Bool} {text rest : List Char}
    (h : readNumber radix maxDigits limit allowZeroPrefix text = some (value, rest)) : rest <:+ text := by
  unfold readNumber at h
  dsimp only at h
  split_ifs at h
  cases h
  exact List.dropWhile_suffix _

/-! ## IPv4 addresses -/

/-- The decimal text of an octet. -/
def octetText (octet : UInt8) : List Char := Nat.toDigits 10 octet.toNat

/-- The text of an IPv4 address. -/
def Ipv4Addr.text (address : Ipv4Addr) : List Char :=
  octetText address.one ++ '.' :: (octetText address.two ++ '.' :: (octetText address.three ++
    '.' :: octetText address.four))

theorem readOctet_text {text rest : List Char} {octet : UInt8} (h : readOctet text = some (octet, rest)) :
    text = octetText octet ++ rest := by
  simp only [readOctet, Option.map_eq_some_iff, Prod.exists, Prod.mk.injEq] at h
  obtain ⟨value, _, hread, rfl, rfl⟩ := h
  obtain ⟨htext, hlimit⟩ := readNumber_decimal hread
  rw [octetText, UInt8.toNat_ofNat', Nat.mod_eq_of_lt (by omega)]
  exact htext

theorem readGivenChar_some {c : Char} {text rest : List Char} : readGivenChar c text = some rest ↔ text = c :: rest := by
  cases text with
  | nil => simp [readGivenChar]
  | cons d text =>
    rw [readGivenChar]
    split
    · simp [*]
    · simp [*]

theorem readSeparator_succ {α : Type} {separator : Char} {index : Nat} {inner : List Char → Option (α × List Char)}
    {text rest : List Char} {a : α} :
    readSeparator separator (index + 1) inner text = some (a, rest) ↔
      ∃ later, text = separator :: later ∧ inner later = some (a, rest) := by
  rw [readSeparator, if_pos (Nat.succ_pos index), Option.bind_eq_some_iff]
  simp only [readGivenChar_some]

/-- An IPv4 address is read from its text. -/
theorem readIpv4Addr_text {text rest : List Char} {address : Ipv4Addr} (h : readIpv4Addr text = some (address, rest)) :
    text = address.text ++ rest := by
  simp only [readIpv4Addr, Option.bind_eq_bind, Option.bind_eq_some_iff, Prod.exists, readSeparator_succ,
    Option.some.injEq, Prod.mk.injEq] at h
  obtain ⟨one, _, hone, two, _, ⟨_, rfl, htwo⟩, three, _, ⟨_, rfl, hthree⟩, four, _, ⟨_, rfl, hfour⟩, rfl, rfl⟩ := h
  rw [readOctet_text hone, readOctet_text htwo, readOctet_text hthree, readOctet_text hfour]
  simp [Ipv4Addr.text]

theorem parseIpAddr_eq_some {text : List Char} {address : IpAddr} :
    parseIpAddr text = some address ↔ readIpAddr text = some (address, []) := by
  unfold parseIpAddr
  cases readIpAddr text with
  | none => simp
  | some read =>
    obtain ⟨found, rest⟩ := read
    cases rest with
    | nil => simp
    | cons c rest => simp

/-- **An IPv4 address has one text only.** -/
theorem parseIpAddr_v4 {text : List Char} {address : Ipv4Addr} (h : parseIpAddr text = some (.v4 address)) :
    text = address.text := by
  rw [parseIpAddr_eq_some, readIpAddr] at h
  cases hread : readIpv4Addr text with
  | some read =>
    obtain ⟨found, rest⟩ := read
    rw [hread] at h
    cases h
    rw [readIpv4Addr_text hread, List.append_nil]
  | none =>
    rw [hread] at h
    simp at h

/-- The characters of an IPv4 address. -/
theorem mem_ipv4Text {address : Ipv4Addr} {c : Char} (h : c ∈ address.text) : c = '.' ∨ c.isDigit = true := by
  have hoctet {octet : UInt8} (hc : c ∈ octetText octet) : c.isDigit = true :=
    Nat.isDigit_of_mem_toDigits (by decide) (Nat.le_refl _) hc
  simp only [Ipv4Addr.text, List.mem_append, List.mem_cons] at h
  obtain h | h | h | h | h | h | h := h
  · exact .inr (hoctet h)
  · exact .inl h
  · exact .inr (hoctet h)
  · exact .inl h
  · exact .inr (hoctet h)
  · exact .inl h
  · exact .inr (hoctet h)

/-! ## IPv6 addresses -/

theorem readGivenChar_of_notMem {c : Char} {text : List Char} (h : c ∉ text) : readGivenChar c text = none := by
  cases hread : readGivenChar c text with
  | none => rfl
  | some rest =>
    rw [readGivenChar_some.mp hread] at h
    exact absurd List.mem_cons_self h

/-- Without a separator there is no second item. -/
theorem readSeparator_of_notMem {α : Type} {separator : Char} {index : Nat}
    {inner : List Char → Option (α × List Char)} {text : List Char} (h : separator ∉ text) :
    readSeparator separator (index + 1) inner text = none := by
  rw [readSeparator, if_pos (Nat.succ_pos index), readGivenChar_of_notMem h, Option.bind_none]

/-- Without a colon there is no second group. -/
theorem readGroups_of_notMem {index remaining : Nat} {text : List Char} (h : ':' ∉ text) :
    readGroups (index + 1) remaining text = (([], false), text) := by
  cases remaining with
  | zero => rfl
  | succ remaining =>
    rw [readGroups, readSeparator_of_notMem h, readSeparator_of_notMem h, ite_self]

theorem readGroup_suffix {text rest : List Char} {group : UInt16} (h : readGroup text = some (group, rest)) :
    rest <:+ text := by
  simp only [readGroup, Option.map_eq_some_iff, Prod.exists, Prod.mk.injEq] at h
  obtain ⟨value, _, hread, -, rfl⟩ := h
  exact readNumber_suffix hread

/-- First groups that are not all need a colon after them. -/
theorem readIpv6Addr_of_groups {head : List UInt16} {headIpv4 : Bool} {text rest : List Char}
    (hgroups : readGroups 0 8 text = ((head, headIpv4), rest)) (hlength : head.length ≠ 8)
    (hrest : headIpv4 = true ∨ ':' ∉ rest) : readIpv6Addr text = none := by
  unfold readIpv6Addr
  rw [hgroups]
  dsimp only
  rw [if_neg hlength]
  split_ifs with hipv4
  · rfl
  · rw [readGivenChar_of_notMem (hrest.resolve_left hipv4)]
    rfl

/-- Without a colon there is no IPv6 address. -/
theorem readIpv6Addr_of_notMem {text : List Char} (h : ':' ∉ text) : readIpv6Addr text = none := by
  cases hipv4 : readSeparator ':' 0 readIpv4Addr text with
  | some read =>
    obtain ⟨address, rest⟩ := read
    have hgroups : readGroups 0 8 text = ((ipv4Groups address, true), rest) := by
      rw [readGroups, if_pos (by decide), hipv4]
    exact readIpv6Addr_of_groups hgroups (by simp [ipv4Groups]) (.inl rfl)
  | none =>
    cases hgroup : readSeparator ':' 0 readGroup text with
    | some read =>
      obtain ⟨group, rest⟩ := read
      have hrest : ':' ∉ rest := fun hmem => h ((readGroup_suffix hgroup).subset hmem)
      have hgroups : readGroups 0 8 text = (([group], false), rest) := by
        rw [readGroups, if_pos (by decide), hipv4]
        dsimp only
        rw [hgroup]
        dsimp only
        rw [readGroups_of_notMem hrest]
      exact readIpv6Addr_of_groups hgroups (by simp) (.inr hrest)
    | none =>
      have hgroups : readGroups 0 8 text = (([], false), text) := by
        rw [readGroups, if_pos (by decide), hipv4]
        dsimp only
        rw [hgroup]
      exact readIpv6Addr_of_groups hgroups (by simp) (.inr h)

/-- **The text of an IPv6 address has a colon.** -/
theorem parseIpAddr_v6 {text : List Char} {address : Ipv6Addr} (h : parseIpAddr text = some (.v6 address)) :
    ':' ∈ text := by
  by_contra hcolon
  rw [parseIpAddr_eq_some, readIpAddr, readIpv6Addr_of_notMem hcolon] at h
  cases hread : readIpv4Addr text with
  | some read =>
    rw [hread] at h
    cases h
  | none =>
    rw [hread] at h
    cases h

end Slotpilot.Lib
