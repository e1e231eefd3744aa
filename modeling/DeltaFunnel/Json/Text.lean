import Mathlib.Data.Nat.Notation

/-! JSON texts: their tokens, and the values they stand for. -/

namespace Json

/-- A token. The text of a string is its UTF-16 code units. -/
inductive Token where
  | openArray
  | closeArray
  | openObject
  | closeObject
  | colon
  | comma
  | word (chars : List Char)
  | text (units : List ℕ)
  deriving DecidableEq, Repr

def punctuation? : Char → Option Token
  | '[' => some .openArray
  | ']' => some .closeArray
  | '\x7b' => some .openObject
  | '\x7d' => some .closeObject
  | ':' => some .colon
  | ',' => some .comma
  | _ => none

def isSpace (c : Char) : Bool := c = ' ' ∨ c = '\t' ∨ c = '\n' ∨ c = '\r'

/-- The characters of numbers and of `true`, `false` and `null`. -/
def isWordChar (c : Char) : Bool := c.isAlphanum || c = '+' || c = '-' || c = '.'

def utf16 (c : Char) : List ℕ :=
  if c.toNat < 0x10000 then [c.toNat]
  else [0xd800 + (c.toNat - 0x10000) / 0x400, 0xdc00 + (c.toNat - 0x10000) % 0x400]

def unescape? : Char → Option ℕ
  | '"' => some 0x22
  | '\\' => some 0x5c
  | '/' => some 0x2f
  | 'b' => some 0x8
  | 'f' => some 0xc
  | 'n' => some 0xa
  | 'r' => some 0xd
  | 't' => some 0x9
  | _ => none

def hexValue? (c : Char) : Option ℕ :=
  if c.isDigit then some (c.toNat - '0'.toNat)
  else if 'a' ≤ c ∧ c ≤ 'f' then some (c.toNat - 'a'.toNat + 10)
  else if 'A' ≤ c ∧ c ≤ 'F' then some (c.toNat - 'A'.toNat + 10)
  else none

inductive Mode where
  /-- Outside of strings, in a word with these characters, the last one first. -/
  | word (chars : List Char)
  | text (units : List ℕ)
  | escape (units : List ℕ)
  /-- In a Unicode escape, with so many digits to come. -/
  | unicode (units : List ℕ) (digits value : ℕ)
  deriving DecidableEq, Repr

/-- The tokens so far, the last one first. -/
structure Scanner where
  tokens : List Token
  mode : Mode
  deriving DecidableEq, Repr

def Scanner.start : Scanner := ⟨[], .word []⟩

def endWord (tokens : List Token) (chars : List Char) : List Token :=
  if chars = [] then tokens else .word chars.reverse :: tokens

def stepWord (tokens : List Token) (chars : List Char) (c : Char) : Option Scanner :=
  if isSpace c then some ⟨endWord tokens chars, .word []⟩
  else match punctuation? c with
    | some token => some ⟨token :: endWord tokens chars, .word []⟩
    | none =>
      if c = '"' then some ⟨endWord tokens chars, .text []⟩
      else if isWordChar c then some ⟨tokens, .word (c :: chars)⟩
      else none

def stepText (tokens : List Token) (units : List ℕ) (c : Char) : Option Scanner :=
  if c = '"' then some ⟨.text units :: tokens, .word []⟩
  else if c = '\\' then some ⟨tokens, .escape units⟩
  else if c.toNat < 0x20 then none
  else some ⟨tokens, .text (units ++ utf16 c)⟩

def stepEscape (tokens : List Token) (units : List ℕ) (c : Char) : Option Scanner :=
  if c = 'u' then some ⟨tokens, .unicode units 4 0⟩
  else (unescape? c).map fun unit => ⟨tokens, .text (units ++ [unit])⟩

def stepUnicode (tokens : List Token) (units : List ℕ) (digits value : ℕ) (c : Char) :
    Option Scanner :=
  (hexValue? c).map fun digit =>
    if digits ≤ 1 then ⟨tokens, .text (units ++ [16 * value + digit])⟩
    else ⟨tokens, .unicode units (digits - 1) (16 * value + digit)⟩

def step (scanner : Scanner) (c : Char) : Option Scanner :=
  match scanner.mode with
  | .word chars => stepWord scanner.tokens chars c
  | .text units => stepText scanner.tokens units c
  | .escape units => stepEscape scanner.tokens units c
  | .unicode units digits value => stepUnicode scanner.tokens units digits value c

def Scanner.finish (scanner : Scanner) : Option (List Token) :=
  match scanner.mode with
  | .word chars => some (endWord scanner.tokens chars).reverse
  | _ => none

def scan (chars : List Char) : Option (List Token) :=
  (chars.foldlM step Scanner.start).bind Scanner.finish

/-- A value, with a number by its digits and an object by its members in order. -/
inductive Value where
  | null
  | bool (value : Bool)
  | number (digits : List Char)
  | string (units : List ℕ)
  | array (items : List Value)
  | object (members : List (List ℕ × Value))

def unsigned : List Char → List Char
  | '-' :: rest => rest
  | chars => chars

/-- Whether an optional fraction and an optional exponent are left. -/
def isExponent : List Char → Bool
  | [] => true
  | c :: rest =>
    let digits := match rest with
      | '+' :: rest => rest
      | rest => unsigned rest
    (c = 'e' || c = 'E') && digits ≠ [] && digits.all Char.isDigit

def isFraction : List Char → Bool
  | '.' :: rest => rest.takeWhile Char.isDigit ≠ [] && isExponent (rest.dropWhile Char.isDigit)
  | rest => isExponent rest

def isNumber (chars : List Char) : Bool :=
  let whole := (unsigned chars).takeWhile Char.isDigit
  whole ≠ [] && (whole.head? ≠ some '0' || whole.length = 1) &&
    isFraction ((unsigned chars).dropWhile Char.isDigit)

def wordValue (chars : List Char) : Option Value :=
  if chars = ['n', 'u', 'l', 'l'] then some .null
  else if chars = ['t', 'r', 'u', 'e'] then some (.bool true)
  else if chars = ['f', 'a', 'l', 's', 'e'] then some (.bool false)
  else if isNumber chars then some (.number chars)
  else none

mutual

def value : ℕ → List Token → Option (Value × List Token)
  | 0, _ => none
  | fuel + 1, tokens =>
    match tokens with
    | .word chars :: rest => (wordValue chars).map (·, rest)
    | .text units :: rest => some (.string units, rest)
    | .openArray :: .closeArray :: rest => some (.array [], rest)
    | .openArray :: rest => (items fuel rest).map fun read => (.array read.1, read.2)
    | .openObject :: .closeObject :: rest => some (.object [], rest)
    | .openObject :: rest => (members fuel rest).map fun read => (.object read.1, read.2)
    | _ => none

def items : ℕ → List Token → Option (List Value × List Token)
  | 0, _ => none
  | fuel + 1, tokens => do
    let (item, rest) ← value fuel tokens
    match rest with
    | .comma :: rest => (items fuel rest).map fun read => (item :: read.1, read.2)
    | .closeArray :: rest => some ([item], rest)
    | _ => none

def members : ℕ → List Token → Option (List (List ℕ × Value) × List Token)
  | 0, _ => none
  | fuel + 1, tokens =>
    match tokens with
    | .text key :: .colon :: rest => do
      let (item, rest) ← value fuel rest
      match rest with
      | .comma :: rest => (members fuel rest).map fun read => ((key, item) :: read.1, read.2)
      | .closeObject :: rest => some ([(key, item)], rest)
      | _ => none
    | _ => none

end

/-- The value of tokens, of which it uses every one. -/
def parseTokens (tokens : List Token) : Option Value :=
  match value (2 * tokens.length + 1) tokens with
  | some (parsed, []) => some parsed
  | _ => none

def parse (text : String) : Option Value := (scan text.toList).bind parseTokens

example : (parse "[-2.5e3, \x7b\"a\\u003c\": \"<\\n\"\x7d, null]").isSome := by decide +kernel

example : (parse "[01]").isNone := by decide +kernel

theorem foldlM_flatMap {rewrite : Char → List Char}
    (hrewrite : ∀ scanner c next, step scanner c = some next →
      (rewrite c).foldlM step scanner = some next)
    {chars : List Char} {scanner next : Scanner} (h : chars.foldlM step scanner = some next) :
    (chars.flatMap rewrite).foldlM step scanner = some next := by
  induction chars generalizing scanner with
  | nil => exact h
  | cons c chars ih =>
    obtain ⟨middle, hc, hchars⟩ := Option.bind_eq_some_iff.1 h
    have hhead := hrewrite scanner c middle hc
    rw [List.flatMap_cons, List.foldlM_append, hhead]
    exact ih hchars

theorem parse_rewrite {rewrite : Char → List Char}
    (hrewrite : ∀ scanner c next, step scanner c = some next →
      (rewrite c).foldlM step scanner = some next)
    {text : String} {parsed : Value} (h : parse text = some parsed) :
    parse (String.ofList (text.toList.flatMap rewrite)) = some parsed := by
  obtain ⟨tokens, hscan, htokens⟩ := Option.bind_eq_some_iff.1 h
  obtain ⟨scanner, hrun, hfinish⟩ := Option.bind_eq_some_iff.1 hscan
  have hrewritten := foldlM_flatMap hrewrite hrun
  rw [parse, String.toList_ofList, scan, hrewritten]
  show scanner.finish.bind parseTokens = some parsed
  rw [hfinish]
  exact htokens

/-- A character that no JSON text holds outside of its strings, nor after a backslash. -/
structure TextOnly (c : Char) : Prop where
  not_space : isSpace c = false
  not_punctuation : punctuation? c = none
  not_quote : c ≠ '"'
  not_backslash : c ≠ '\\'
  not_wordChar : isWordChar c = false
  not_unescape : unescape? c = none
  not_hexValue : hexValue? c = none
  ne_u : c ≠ 'u'

theorem TextOnly.step_eq_some {c : Char} (hc : TextOnly c) {scanner next : Scanner}
    (h : step scanner c = some next) :
    ∃ units, scanner.mode = .text units ∧ next = ⟨scanner.tokens, .text (units ++ utf16 c)⟩ := by
  unfold step at h
  cases hmode : scanner.mode with
  | word chars =>
    simp [hmode, stepWord, hc.not_space, hc.not_punctuation, hc.not_quote, hc.not_wordChar] at h
  | text units =>
    simp only [hmode, stepText, if_neg hc.not_quote, if_neg hc.not_backslash] at h
    split at h
    · cases h
    · exact ⟨units, rfl, (Option.some.inj h).symm⟩
  | escape units => simp [hmode, stepEscape, hc.ne_u, hc.not_unescape] at h
  | unicode units digits value => simp [hmode, stepUnicode, hc.not_hexValue] at h

theorem foldlM_step_unicode {a b c d : Char} (va vb vc vd : ℕ) (ha : hexValue? a = some va)
    (hb : hexValue? b = some vb) (hc : hexValue? c = some vc) (hd : hexValue? d = some vd)
    (tokens : List Token) (units : List ℕ) :
    ['\\', 'u', a, b, c, d].foldlM step ⟨tokens, .text units⟩ =
      some ⟨tokens, .text (units ++ [16 * (16 * (16 * va + vb) + vc) + vd])⟩ := by
  simp [step, stepText, stepEscape, stepUnicode, ha, hb, hc, hd]

theorem TextOnly.foldlM_escaped {c : Char} (hc : TextOnly c) (hlow : c.toNat < 0x10000)
    {escaped : List Char}
    (hescaped : ∀ tokens units, escaped.foldlM step ⟨tokens, .text units⟩ =
      some ⟨tokens, .text (units ++ [c.toNat])⟩)
    {scanner next : Scanner} (h : step scanner c = some next) :
    escaped.foldlM step scanner = some next := by
  obtain ⟨units, hmode, rfl⟩ := hc.step_eq_some h
  have hscanner : scanner = ⟨scanner.tokens, .text units⟩ := by rw [← hmode]
  rw [hscanner, hescaped, utf16, if_pos hlow]

end Json
