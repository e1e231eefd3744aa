import Mathlib.Data.List.Basic

/-! The tokens of HTML text, read one character at a time, and how escaping a value keeps it
character data. -/

namespace Html

/-- A tag with what stands between its angle brackets, or a character of text. -/
inductive Token where
  | tag (source : List Char)
  | character (c : Char)
  deriving DecidableEq, Repr

/-- What has been begun. The characters of a tag are kept with the last one first, the part of
the end tag of a style sheet that was read so far in order. -/
inductive Mode where
  | data
  | tagOpen
  | tag (source : List Char)
  | quoted (quote : Char) (source : List Char)
  | comment
  | styleSheet (seen : List Char)
  deriving DecidableEq, Repr

def isTag (name source : List Char) : Bool := source.takeWhile (·.isAlphanum) = name

def styleName : List Char := ['s', 't', 'y', 'l', 'e']

def styleEnd : List Char := ['<', '/', 's', 't', 'y', 'l', 'e', '>']

/-- After `<style>` everything up to its end tag is text. -/
def afterTag (source : List Char) : Mode :=
  if isTag styleName source then .styleSheet [] else .data

def read (mode : Mode) (c : Char) : List Token × Mode :=
  match mode with
  | .data => if c = '<' then ([], .tagOpen) else ([.character c], .data)
  | .tagOpen =>
    if c.isAlpha ∨ c = '/' then ([], .tag [c])
    else if c = '!' ∨ c = '?' then ([], .comment)
    else if c = '<' then ([.character '<'], .tagOpen)
    else ([.character '<', .character c], .data)
  | .tag source =>
    if c = '>' then ([.tag source.reverse], afterTag source.reverse)
    else if c = '"' ∨ c = '\'' then ([], .quoted c (c :: source))
    else ([], .tag (c :: source))
  | .quoted quote source =>
    ([], if c = quote then .tag (c :: source) else .quoted quote (c :: source))
  | .comment => ([], if c = '>' then .data else .comment)
  | .styleSheet seen =>
    if seen ++ [c] = styleEnd then ([.tag ('/' :: styleName)], .data)
    else if (seen ++ [c]).isPrefixOf styleEnd then ([], .styleSheet (seen ++ [c]))
    else if c = '<' then (seen.map .character, .styleSheet ['<'])
    else ((seen ++ [c]).map .character, .styleSheet [])

/-- The tokens that a part of a text completes, and what it leaves begun. -/
def scan : Mode → List Char → List Token × Mode
  | mode, [] => ([], mode)
  | mode, c :: cs =>
    let result := scan (read mode c).2 cs
    ((read mode c).1 ++ result.1, result.2)

def tokens (text : List Char) : List Token := (scan .data text).1

theorem scan_append (mode : Mode) (first second : List Char) :
    scan mode (first ++ second) =
      ((scan mode first).1 ++ (scan (scan mode first).2 second).1,
        (scan (scan mode first).2 second).2) := by
  induction first generalizing mode with
  | nil => rfl
  | cons c cs ih => simp only [List.cons_append, scan, ih, List.append_assoc]

theorem scan_plain {text : List Char} (h : '<' ∉ text) :
    scan .data text = (text.map .character, .data) := by
  induction text with
  | nil => rfl
  | cons c cs ih =>
    rw [List.mem_cons, not_or] at h
    obtain ⟨hc, hcs⟩ := h
    have hread : read .data c = ([.character c], .data) := if_neg (Ne.symm hc)
    rw [scan, hread, ih hcs]
    rfl

theorem scan_styleSheet {text : List Char} (h : '<' ∉ text) :
    scan (.styleSheet []) text = (text.map .character, .styleSheet []) := by
  induction text with
  | nil => rfl
  | cons c cs ih =>
    rw [List.mem_cons, not_or] at h
    obtain ⟨hc, hcs⟩ := h
    have hend : [c] ≠ styleEnd := fun heq => hc (List.cons.inj heq).1.symm
    have hprefix : [c].isPrefixOf styleEnd = false := by
      show (c == '<' && _) = false
      rw [beq_false_of_ne (Ne.symm hc)]
      rfl
    have hread : read (.styleSheet []) c = ([.character c], .styleSheet []) := by
      show (if [c] = styleEnd then _ else if [c].isPrefixOf styleEnd = true then _
        else if c = '<' then _ else _) = _
      rw [if_neg hend, hprefix, if_neg Bool.false_ne_true, if_neg (Ne.symm hc)]
      rfl
    rw [scan, hread, ih hcs]
    rfl

def Reads (text : List Char) (tokens : List Token) : Prop := scan .data text = (tokens, .data)

theorem Reads.append {first second : List Char} {firstTokens secondTokens : List Token}
    (h : Reads first firstTokens) (h' : Reads second secondTokens) :
    Reads (first ++ second) (firstTokens ++ secondTokens) := by
  unfold Reads at h h' ⊢
  rw [scan_append, h, h']

theorem Reads.flatMap {α : Type} {text : α → List Char} {tokens : α → List Token} {xs : List α}
    (h : ∀ x ∈ xs, Reads (text x) (tokens x)) :
    Reads (xs.flatMap text) (xs.flatMap tokens) := by
  induction xs with
  | nil => rfl
  | cons x xs ih =>
    obtain ⟨hx, hxs⟩ := List.forall_mem_cons.1 h
    rw [List.flatMap_cons, List.flatMap_cons]
    exact hx.append (ih hxs)

theorem Reads.tokens_eq {text : List Char} {expected : List Token} (h : Reads text expected) :
    tokens text = expected := by
  unfold tokens
  rw [h]

def tagSource : Token → Option (List Char)
  | .tag source => some source
  | .character _ => none

def isCharacter : Token → Bool
  | .tag _ => false
  | .character _ => true

def characterOf : Token → Option Char
  | .tag _ => none
  | .character c => some c

def tags (tokens : List Token) : List (List Char) := tokens.filterMap tagSource

/-- The text right after each tag of a kind, up to the next tag. -/
def textsAfter (kind : List Char → Bool) : List Token → List (List Char)
  | [] => []
  | .character _ :: rest => textsAfter kind rest
  | .tag source :: rest =>
    if kind source then
      (rest.takeWhile isCharacter).filterMap characterOf :: textsAfter kind rest
    else textsAfter kind rest

theorem tags_append (first second : List Token) :
    tags (first ++ second) = tags first ++ tags second :=
  List.filterMap_append

theorem tags_characters (text : List Char) : tags (text.map .character) = [] := by
  unfold tags
  rw [List.filterMap_map]
  exact List.filterMap_eq_nil_iff.2 fun _ _ => rfl

theorem textsAfter_characters (kind : List Char → Bool) (text : List Char)
    (rest : List Token) : textsAfter kind (text.map .character ++ rest) =
      textsAfter kind rest := by
  induction text with
  | nil => rfl
  | cons c cs ih => exact ih

theorem tags_flatMap {α : Type} (text : α → List Token) (xs : List α) :
    tags (xs.flatMap text) = xs.flatMap fun x => tags (text x) := by
  induction xs with
  | nil => rfl
  | cons x xs ih => rw [List.flatMap_cons, tags_append, ih, List.flatMap_cons]

def StartsWithTag : List Token → Prop
  | [] => True
  | .tag _ :: _ => True
  | .character _ :: _ => False

theorem takeWhile_append_tag {second : List Token} (h : StartsWithTag second)
    (first : List Token) :
    (first ++ second).takeWhile isCharacter = first.takeWhile isCharacter := by
  induction first with
  | nil =>
    cases second with
    | nil => rfl
    | cons token rest =>
      cases token with
      | tag source => rfl
      | character c => exact absurd h id
  | cons token first ih =>
    cases token with
    | tag source => rfl
    | character c => exact congrArg (Token.character c :: ·) ih

theorem textsAfter_append (kind : List Char → Bool) {second : List Token}
    (h : StartsWithTag second) (first : List Token) :
    textsAfter kind (first ++ second) = textsAfter kind first ++ textsAfter kind second := by
  induction first with
  | nil => rfl
  | cons token first ih =>
    cases token with
    | character c => exact ih
    | tag source =>
      rw [List.cons_append, textsAfter, textsAfter, takeWhile_append_tag h, ih]
      split
      · rfl
      · rfl

theorem textsAfter_flatMap (kind : List Char → Bool) {α : Type} {text : α → List Token}
    (h : ∀ x, StartsWithTag (text x)) (xs : List α) :
    textsAfter kind (xs.flatMap text) = xs.flatMap fun x => textsAfter kind (text x) := by
  have hstarts : ∀ xs : List α, StartsWithTag (xs.flatMap text) := by
    intro xs
    induction xs with
    | nil => trivial
    | cons x xs ih =>
      have hx := h x
      rw [List.flatMap_cons]
      cases hfirst : text x with
      | nil => exact ih
      | cons token rest =>
        rw [hfirst] at hx
        cases token with
        | tag source => trivial
        | character c => exact absurd hx id
  induction xs with
  | nil => rfl
  | cons x xs ih => rw [List.flatMap_cons, textsAfter_append kind (hstarts xs), ih, List.flatMap_cons]

theorem textsAfter_tag (kind : List Char → Bool) (source text : List Char) {rest : List Token}
    (h : StartsWithTag rest) :
    textsAfter kind (.tag source :: (text.map .character ++ rest)) =
      (if kind source then [text] else []) ++ textsAfter kind rest := by
  have htext : ((text.map Token.character).takeWhile isCharacter).filterMap characterOf =
      text := by
    induction text with
    | nil => rfl
    | cons c cs ih => exact congrArg (c :: ·) ih
  rw [textsAfter, takeWhile_append_tag h, htext, textsAfter_characters]
  split
  · rfl
  · rfl

theorem textsAfter_skip {kind : List Char → Bool} {first : List Token}
    (h : ∀ source ∈ tags first, kind source = false) (rest : List Token) :
    textsAfter kind (first ++ rest) = textsAfter kind rest := by
  induction first with
  | nil => rfl
  | cons token first ih =>
    cases token with
    | character c => exact ih h
    | tag source =>
      have hsource : kind source = false := h source List.mem_cons_self
      rw [List.cons_append, textsAfter, hsource]
      exact ih fun other hother => h other (List.mem_cons_of_mem _ hother)

theorem textsAfter_eq_nil {kind : List Char → Bool} {text : List Token}
    (h : ∀ source ∈ tags text, kind source = false) : textsAfter kind text = [] := by
  have hskip := textsAfter_skip h []
  rw [List.append_nil] at hskip
  exact hskip

def escapeChar (c : Char) : List Char :=
  if c = '&' then ['&', 'a', 'm', 'p', ';']
  else if c = '<' then ['&', 'l', 't', ';']
  else if c = '>' then ['&', 'g', 't', ';']
  else if c = '"' then ['&', 'q', 'u', 'o', 't', ';']
  else if c = '\'' then ['&', '#', '3', '9', ';']
  else [c]

def escape (text : List Char) : List Char := text.flatMap escapeChar

/-- Decodes the character references that escaping writes; any other `&` stands for itself. -/
def unescape : List Char → List Char
  | [] => []
  | '&' :: 'a' :: 'm' :: 'p' :: ';' :: rest => '&' :: unescape rest
  | '&' :: 'l' :: 't' :: ';' :: rest => '<' :: unescape rest
  | '&' :: 'g' :: 't' :: ';' :: rest => '>' :: unescape rest
  | '&' :: 'q' :: 'u' :: 'o' :: 't' :: ';' :: rest => '"' :: unescape rest
  | '&' :: '#' :: '3' :: '9' :: ';' :: rest => '\'' :: unescape rest
  | c :: rest => c :: unescape rest

theorem unescape_cons {c : Char} (hc : c ≠ '&') (rest : List Char) :
    unescape (c :: rest) = c :: unescape rest := by
  rw [unescape]
  all_goals
    intros
    exact absurd ‹_› hc

theorem unescape_escapeChar (c : Char) (rest : List Char) :
    unescape (escapeChar c ++ rest) = c :: unescape rest := by
  unfold escapeChar
  by_cases hamp : c = '&'
  · rw [if_pos hamp, hamp]
    rfl
  · rw [if_neg hamp]
    split
    · next h =>
      rw [h]
      rfl
    · split
      · next h =>
        rw [h]
        rfl
      · split
        · next h =>
          rw [h]
          rfl
        · split
          · next h =>
            rw [h]
            rfl
          · exact unescape_cons hamp rest

theorem unescape_escape (text : List Char) : unescape (escape text) = text := by
  induction text with
  | nil => rfl
  | cons c cs ih =>
    have hchar := unescape_escapeChar c (escape cs)
    rw [ih] at hchar
    exact hchar

theorem escape_injective {text other : List Char} (h : escape text = escape other) :
    text = other := by
  rw [← unescape_escape text, h, unescape_escape]

theorem not_mem_escape {c : Char} (hc : c = '<' ∨ c = '>' ∨ c = '"' ∨ c = '\'')
    (text : List Char) : c ∉ escape text := by
  intro hmem
  obtain ⟨d, -, hd⟩ := List.mem_flatMap.1 hmem
  unfold escapeChar at hd
  split at hd
  · rcases hc with rfl | rfl | rfl | rfl <;> revert hd <;> decide
  · split at hd
    · rcases hc with rfl | rfl | rfl | rfl <;> revert hd <;> decide
    · split at hd
      · rcases hc with rfl | rfl | rfl | rfl <;> revert hd <;> decide
      · split at hd
        · rcases hc with rfl | rfl | rfl | rfl <;> revert hd <;> decide
        · split at hd
          · rcases hc with rfl | rfl | rfl | rfl <;> revert hd <;> decide
          · obtain rfl := List.mem_singleton.1 hd
            rcases hc with rfl | rfl | rfl | rfl <;> contradiction

theorem reads_escape (text : List Char) :
    Reads (escape text) ((escape text).map .character) :=
  scan_plain (not_mem_escape (Or.inl rfl) text)

end Html
