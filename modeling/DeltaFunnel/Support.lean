import Mathlib.Data.List.TakeWhile
import Mathlib.Data.Nat.Notation
import Mathlib.Order.Basic

/-! Results, number and text helpers shared by the report and execution models. -/

namespace DeltaFunnel

/-- A quantifier over the elements of a list is decided by going through the list, even where all
values of the type could be gone through. -/
instance (priority := 2000) decidableForallMem {α : Type} {P : α → Prop} [DecidablePred P]
    (l : List α) : Decidable (∀ a ∈ l, P a) :=
  List.decidableBAll P l

-- Named, so that every test for membership in such lists rests on the same instances.
instance lawfulBEqIntPair : LawfulBEq (ℤ × ℤ) := inferInstance

instance lawfulBEqChars : LawfulBEq (List Char) := inferInstance

theorem except_bind_eq_ok {ε α β : Type} {x : Except ε α} {f : α → Except ε β} {b : β} :
    (x >>= f) = .ok b ↔ ∃ a, x = .ok a ∧ f a = .ok b := by
  cases x with
  | error e => simp [bind, Except.bind]
  | ok a => simp [bind, Except.bind]

theorem except_forM_eq_ok {ε α : Type} {xs : List α} {f : α → Except ε Unit} :
    xs.forM f = .ok () ↔ ∀ x ∈ xs, f x = .ok () := by
  induction xs with
  | nil => simp [pure, Except.pure]
  | cons x xs ih =>
    show (f x >>= fun _ => xs.forM f) = .ok () ↔ _
    rw [except_bind_eq_ok, List.forall_mem_cons, ← ih]
    constructor
    · rintro ⟨⟨⟩, hx, hxs⟩
      exact ⟨hx, hxs⟩
    · rintro ⟨hx, hxs⟩
      exact ⟨(), hx, hxs⟩

theorem except_foldlM_view {ε α σ τ : Type} {f : σ → α → Except ε σ} {view : σ → τ}
    {g : τ → α → τ} (hstep : ∀ s a s', f s a = .ok s' → view s' = g (view s) a) {xs : List α}
    {s s' : σ} (h : xs.foldlM f s = .ok s') : view s' = xs.foldl g (view s) := by
  induction xs generalizing s with
  | nil =>
    obtain rfl : s = s' := Except.ok.inj h
    rfl
  | cons x xs ih =>
    rw [List.foldlM_cons, except_bind_eq_ok] at h
    obtain ⟨t, hx, hxs⟩ := h
    rw [ih hxs, hstep s x t hx]
    rfl

theorem except_foldlM_invariant {ε α σ : Type} {f : σ → α → Except ε σ} {P : σ → Prop}
    (hstep : ∀ s a s', P s → f s a = .ok s' → P s') {xs : List α} {s s' : σ} (hs : P s)
    (h : xs.foldlM f s = .ok s') : P s' := by
  induction xs generalizing s with
  | nil =>
    obtain rfl : s = s' := Except.ok.inj h
    exact hs
  | cons x xs ih =>
    rw [List.foldlM_cons, except_bind_eq_ok] at h
    obtain ⟨t, hx, hxs⟩ := h
    exact ih (hstep s x t hs hx) hxs

theorem except_foldlM_forall {ε α σ : Type} {f : σ → α → Except ε σ} {P : α → Prop}
    (hstep : ∀ s a s', f s a = .ok s' → P a) {xs : List α} {s s' : σ}
    (h : xs.foldlM f s = .ok s') : ∀ x ∈ xs, P x := by
  induction xs generalizing s with
  | nil => exact fun x hx => absurd hx List.not_mem_nil
  | cons x xs ih =>
    rw [List.foldlM_cons, except_bind_eq_ok] at h
    obtain ⟨t, hx, hxs⟩ := h
    exact List.forall_mem_cons.2 ⟨hstep s x t hx, ih hxs⟩

def u64Max : ℕ := 18446744073709551615

/-- `u64::saturating_add`. -/
def saturatingAdd (a b : ℕ) : ℕ := min (a + b) u64Max

def usizeToU64Saturating (value : ℕ) : ℕ := min value u64Max

theorem saturatingAdd_eq_of_le {a b : ℕ} (h : a + b ≤ u64Max) : saturatingAdd a b = a + b :=
  Nat.min_eq_left h

theorem saturatingAdd_min (a b : ℕ) :
    saturatingAdd (min a u64Max) (min b u64Max) = min (a + b) u64Max := by
  unfold saturatingAdd
  omega

def i64Max : ℤ := 9223372036854775807

def i64Min : ℤ := -9223372036854775808

def inI64 (value : ℤ) : Bool := i64Min ≤ value ∧ value ≤ i64Max

/-- `i64::checked_add`. -/
def checkedAdd (a b : ℤ) : Option ℤ := if inI64 (a + b) then some (a + b) else none

/-- `i64::checked_sub`. -/
def checkedSub (a b : ℤ) : Option ℤ := if inI64 (a - b) then some (a - b) else none

theorem checkedAdd_eq_some {a b c : ℤ} :
    checkedAdd a b = some c ↔ a + b = c ∧ inI64 (a + b) = true := by
  unfold checkedAdd
  split
  · next h => simp [h]
  · next h => simp [h]

theorem inI64_of_nonneg {value : ℤ} (hnonneg : 0 ≤ value) (hle : value ≤ i64Max) :
    inI64 value = true := by
  have hmin : i64Min ≤ 0 := by decide
  exact decide_eq_true ⟨Int.le_trans hmin hnonneg, hle⟩

theorem le_i64Max_of_inI64 {value : ℤ} (h : inI64 value = true) : value ≤ i64Max :=
  (of_decide_eq_true h).2

def hexDigit (n : ℕ) : Char :=
  if n < 10 then Char.ofNat ('0'.toNat + n) else Char.ofNat ('a'.toNat + (n - 10))

/-- Lowercase hexadecimal digits of a code point, most significant first. -/
def hexDigits : ℕ → ℕ → List Char
  | 0, _ => []
  | fuel + 1, n => if n < 16 then [hexDigit n] else hexDigits fuel (n / 16) ++ [hexDigit (n % 16)]

/-- `char::escape_default`. -/
def escapeDefault (c : Char) : List Char :=
  if c = '\t' then ['\\', 't']
  else if c = '\r' then ['\\', 'r']
  else if c = '\n' then ['\\', 'n']
  else if c = '\'' ∨ c = '"' ∨ c = '\\' then ['\\', c]
  else if 0x20 ≤ c.toNat ∧ c.toNat ≤ 0x7e then [c]
  else ['\\', 'u', '\x7b'] ++ hexDigits 6 c.toNat ++ ['\x7d']

def sanitizeTextForDisplay (text : String) : String :=
  String.ofList (text.toList.flatMap escapeDefault)

def stripFragmentAndQuery (uri : List Char) : List Char :=
  uri.takeWhile fun c => c ≠ '?' ∧ c ≠ '#'

/-- Splits a URI after its first `://`. -/
def splitScheme : List Char → Option (List Char × List Char)
  | [] => none
  | ':' :: '/' :: '/' :: rest => some ([':', '/', '/'], rest)
  | c :: rest => (splitScheme rest).map fun parts => (c :: parts.1, parts.2)

def stripUserinfo (uri : List Char) : List Char :=
  match splitScheme uri with
  | none => uri
  | some (scheme, rest) =>
    let authority := rest.takeWhile (· ≠ '/')
    if '@' ∈ authority then
      scheme ++ (authority.reverse.takeWhile (· ≠ '@')).reverse ++ rest.dropWhile (· ≠ '/')
    else uri

def sanitizeUriForDisplay (uri : String) : String :=
  sanitizeTextForDisplay (String.ofList (stripUserinfo (stripFragmentAndQuery uri.toList)))

def isAsciiAlphabetic (c : Char) : Bool :=
  'a'.toNat ≤ c.toNat ∧ c.toNat ≤ 'z'.toNat ∨ 'A'.toNat ≤ c.toNat ∧ c.toNat ≤ 'Z'.toNat

def isAsciiDigit (c : Char) : Bool := '0'.toNat ≤ c.toNat ∧ c.toNat ≤ '9'.toNat

/-- `char::to_ascii_lowercase`. -/
def toAsciiLowercaseChar (c : Char) : Char :=
  if 'A'.toNat ≤ c.toNat ∧ c.toNat ≤ 'Z'.toNat then Char.ofNat (c.toNat + 32) else c

/-- `str::to_ascii_lowercase`, on which `eq_ignore_ascii_case` compares. -/
def toAsciiLowercase (text : String) : String :=
  String.ofList (text.toList.map toAsciiLowercaseChar)

def eqIgnoreAsciiCase (a b : String) : Bool := toAsciiLowercase a = toAsciiLowercase b

@[simp] theorem eqIgnoreAsciiCase_iff {a b : String} :
    eqIgnoreAsciiCase a b = true ↔ toAsciiLowercase a = toAsciiLowercase b := by
  simp [eqIgnoreAsciiCase]

/-- `char::is_whitespace`. -/
def isWhitespace (c : Char) : Bool :=
  0x9 ≤ c.toNat ∧ c.toNat ≤ 0xd ∨ 0x2000 ≤ c.toNat ∧ c.toNat ≤ 0x200a ∨
    c.toNat ∈ [0x20, 0x85, 0xa0, 0x1680, 0x2028, 0x2029, 0x202f, 0x205f, 0x3000]

def trimChars (text : List Char) : List Char :=
  ((text.dropWhile isWhitespace).reverse.dropWhile isWhitespace).reverse

/-- `str::trim`. -/
def trimText (text : String) : String := String.ofList (trimChars text.toList)

theorem isWhitespace_of_trimChars_eq_nil {text : List Char} (h : trimChars text = []) :
    ∀ c ∈ text, isWhitespace c := by
  rw [trimChars, List.reverse_eq_nil_iff, List.dropWhile_eq_nil_iff] at h
  intro c hc
  by_contra hc'
  have hsplit : c ∈ text.takeWhile isWhitespace ++ text.dropWhile isWhitespace := by
    rwa [List.takeWhile_append_dropWhile]
  rcases List.mem_append.1 hsplit with htake | hdrop
  · exact hc' (List.mem_takeWhile_imp htake)
  · exact hc' (h c (List.mem_reverse.2 hdrop))

theorem trimText_trimText_ne_empty {text : String} (h : trimText text ≠ "") :
    trimText (trimText text) ≠ "" := by
  intro hblank
  have hall : ∀ c ∈ trimChars text.toList, isWhitespace c := by
    have hnil : trimChars (trimText text).toList = [] := by
      simpa [trimText] using hblank
    rw [trimText, String.toList_ofList] at hnil
    exact isWhitespace_of_trimChars_eq_nil hnil
  -- The last character of a trimmed text is no whitespace.
  rcases hlast : (text.toList.dropWhile isWhitespace).reverse.dropWhile isWhitespace with _ | ⟨c, cs⟩
  · apply h
    rw [trimText, trimChars, hlast]
    rfl
  · have hne : (text.toList.dropWhile isWhitespace).reverse.dropWhile isWhitespace ≠ [] := by
      rw [hlast]
      simp
    have hc := List.head_dropWhile_not isWhitespace hne
    have hmem : c ∈ trimChars text.toList := by
      rw [trimChars, hlast]
      simp
    simp only [hlast, List.head_cons] at hc
    rw [hall c hmem] at hc
    cases hc

def containsChars (pattern : List Char) : List Char → Bool
  | [] => pattern.isEmpty
  | c :: text => pattern.isPrefixOf (c :: text) || containsChars pattern text

/-- `str::contains`. -/
def containsText (pattern text : String) : Bool := containsChars pattern.toList text.toList

example : sanitizeUriForDisplay "s3://user:password@example.com/table?token=secret#debug" =
    "s3://example.com/table" := by decide

example : sanitizeTextForDisplay "a\n'é" = "a\\n\\'\\u\x7be9\x7d" := by decide

end DeltaFunnel
