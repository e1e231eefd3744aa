import Mathlib.Data.List.Forall2

/-! The tokens of Transact-SQL text, read one character at a time, and how quoting a value makes it
one token. -/

namespace Sql

inductive Token where
  | word (text : String)
  | symbol (c : Char)
  | text (national : Bool) (value : String)
  /-- A bracketed name, in as many parts as dots join. -/
  | name (parts : List String)
  deriving DecidableEq, Repr

/-- What has been begun. Characters are kept with the last one first. -/
inductive Mode where
  | gap
  | word (chars : List Char)
  | text (national : Bool) (chars : List Char)
  /-- A quote was read: the end of the text, unless another quote follows. -/
  | textEnd (national : Bool) (chars : List Char)
  | name (parts : List String) (chars : List Char)
  | nameEnd (parts : List String) (chars : List Char)
  | nameDot (parts : List String)
  | dash
  | lineComment
  | slash
  | comment (depth : ℕ)
  | commentStar (depth : ℕ)
  | commentSlash (depth : ℕ)
  deriving DecidableEq, Repr

def isWordChar (c : Char) : Bool := c.isAlphanum || c = '_' || c = '@' || c = '#' || c = '$'

def inOrder (chars : List Char) : String := String.ofList chars.reverse

theorem inOrder_reverse (value : String) : inOrder value.toList.reverse = value := by
  rw [inOrder, List.reverse_reverse, String.ofList_toList]

def readGap (c : Char) : List Token × Mode :=
  if c.isWhitespace then ([], .gap)
  else if c = '\'' then ([], .text false [])
  else if c = '[' then ([], .name [] [])
  else if c = '-' then ([], .dash)
  else if c = '/' then ([], .slash)
  else if isWordChar c then ([], .word [c])
  else ([.symbol c], .gap)

/-- The tokens that are complete before `c`, and then `c`. -/
def readAfter (tokens : List Token) (c : Char) : List Token × Mode :=
  (tokens ++ (readGap c).1, (readGap c).2)

def read (mode : Mode) (c : Char) : List Token × Mode :=
  match mode with
  | .gap => readGap c
  | .word chars =>
    if isWordChar c then ([], .word (c :: chars))
    else if c = '\'' ∧ chars = ['N'] then ([], .text true [])
    else readAfter [.word (inOrder chars)] c
  | .text national chars =>
    if c = '\'' then ([], .textEnd national chars) else ([], .text national (c :: chars))
  | .textEnd national chars =>
    if c = '\'' then ([], .text national ('\'' :: chars))
    else readAfter [.text national (inOrder chars)] c
  | .name parts chars =>
    if c = ']' then ([], .nameEnd parts chars) else ([], .name parts (c :: chars))
  | .nameEnd parts chars =>
    if c = ']' then ([], .name parts (']' :: chars))
    else if c = '.' then ([], .nameDot (parts ++ [inOrder chars]))
    else readAfter [.name (parts ++ [inOrder chars])] c
  | .nameDot parts =>
    if c = '[' then ([], .name parts []) else readAfter [.name parts, .symbol '.'] c
  | .dash => if c = '-' then ([], .lineComment) else readAfter [.symbol '-'] c
  | .lineComment => ([], if c = '\n' then .gap else .lineComment)
  | .slash => if c = '*' then ([], .comment 0) else readAfter [.symbol '/'] c
  | .comment depth =>
    ([], if c = '*' then .commentStar depth
      else if c = '/' then .commentSlash depth else .comment depth)
  | .commentStar depth =>
    ([], if c = '/' then (if depth = 0 then .gap else .comment (depth - 1))
      else if c = '*' then .commentStar depth else .comment depth)
  | .commentSlash depth =>
    ([], if c = '*' then .comment (depth + 1)
      else if c = '/' then .commentSlash depth else .comment depth)

/-- What is left at the end of the text; nothing may be open. -/
def finish : Mode → Option (List Token)
  | .gap => some []
  | .word chars => some [.word (inOrder chars)]
  | .textEnd national chars => some [.text national (inOrder chars)]
  | .nameEnd parts chars => some [.name (parts ++ [inOrder chars])]
  | .nameDot parts => some [.name parts, .symbol '.']
  | .dash => some [.symbol '-']
  | .lineComment => some []
  | .slash => some [.symbol '/']
  | .text _ _ | .name _ _ | .comment _ | .commentStar _ | .commentSlash _ => none

/-- The tokens that a part of a text completes, and what it leaves begun. -/
def scan : Mode → List Char → List Token × Mode
  | mode, [] => ([], mode)
  | mode, c :: cs =>
    let result := scan (read mode c).2 cs
    ((read mode c).1 ++ result.1, result.2)

def run (mode : Mode) (chars : List Char) : Option (List Token) :=
  (finish (scan mode chars).2).map ((scan mode chars).1 ++ ·)

def lex (chars : List Char) : Option (List Token) := run .gap chars

theorem scan_append (mode : Mode) (first second : List Char) :
    scan mode (first ++ second) =
      ((scan mode first).1 ++ (scan (scan mode first).2 second).1,
        (scan (scan mode first).2 second).2) := by
  induction first generalizing mode with
  | nil => rfl
  | cons c cs ih => simp only [List.cons_append, scan, ih, List.append_assoc]

theorem run_append {mode after : Mode} {first : List Char} {tokens : List Token}
    (h : scan mode first = (tokens, after)) (second : List Char) :
    run mode (first ++ second) = (run after second).map (tokens ++ ·) := by
  unfold run
  rw [scan_append, h, Option.map_map]
  congr 1
  funext later
  exact List.append_assoc ..

theorem run_cons_of_readAfter {mode : Mode} {tokens : List Token} {c : Char}
    (h : read mode c = readAfter tokens c) (cs : List Char) :
    run mode (c :: cs) = (run .gap (c :: cs)).map (tokens ++ ·) := by
  have hgap : read .gap c = readGap c := rfl
  unfold run
  simp only [scan, h, hgap, readAfter, Option.map_map, List.append_assoc]
  rfl

/-- Every `delimiter` twice. -/
def double (delimiter : Char) (value : List Char) : List Char :=
  value.flatMap fun c => if c = delimiter then [delimiter, delimiter] else [c]

theorem scan_double_quote (national : Bool) (value chars : List Char) :
    scan (.text national chars) (double '\'' value) =
      ([], .text national (value.reverse ++ chars)) := by
  induction value generalizing chars with
  | nil => rfl
  | cons c cs ih =>
    rw [double, List.flatMap_cons, scan_append]
    have hc : scan (.text national chars) (if c = '\'' then ['\'', '\''] else [c]) =
        ([], .text national (c :: chars)) := by
      split
      · next h => simp [scan, read, h]
      · next h => simp [scan, read, h]
    rw [hc]
    show ([] ++ (scan (.text national (c :: chars)) (double '\'' cs)).1,
      (scan (.text national (c :: chars)) (double '\'' cs)).2) = _
    rw [ih, List.reverse_cons, List.append_assoc]
    rfl

theorem scan_double_bracket (parts : List String) (value chars : List Char) :
    scan (.name parts chars) (double ']' value) = ([], .name parts (value.reverse ++ chars)) := by
  induction value generalizing chars with
  | nil => rfl
  | cons c cs ih =>
    rw [double, List.flatMap_cons, scan_append]
    have hc : scan (.name parts chars) (if c = ']' then [']', ']'] else [c]) =
        ([], .name parts (c :: chars)) := by
      split
      · next h => simp [scan, read, h]
      · next h => simp [scan, read, h]
    rw [hc]
    show ([] ++ (scan (.name parts (c :: chars)) (double ']' cs)).1,
      (scan (.name parts (c :: chars)) (double ']' cs)).2) = _
    rw [ih, List.reverse_cons, List.append_assoc]
    rfl

def nationalText (value : String) : List Char := 'N' :: '\'' :: double '\'' value.toList ++ ['\'']

theorem scan_nationalText (value : String) :
    scan .gap (nationalText value) = ([], .textEnd true value.toList.reverse) := by
  have hopen : scan .gap ['N', '\''] = ([], .text true []) := by decide
  show scan .gap (['N', '\''] ++ double '\'' value.toList ++ ['\'']) = _
  rw [List.append_assoc, scan_append, hopen, scan_append, scan_double_quote]
  simp [scan, read]

/-- A character that neither continues a text nor a name. -/
def Stops (c : Char) : Prop := c ≠ '\'' ∧ c ≠ ']' ∧ c ≠ '.'

instance (c : Char) : Decidable (Stops c) := inferInstanceAs (Decidable (_ ∧ _))

theorem run_nationalText (value : String) {c : Char} (hc : Stops c) (cs : List Char) :
    run .gap (nationalText value ++ c :: cs) =
      (run .gap (c :: cs)).map (.text true value :: ·) := by
  have hread : read (.textEnd true value.toList.reverse) c = readAfter [.text true value] c := by
    rw [read, if_neg hc.1, inOrder_reverse]
  rw [run_append (scan_nationalText value), run_cons_of_readAfter hread, Option.map_map]
  rfl

theorem lex_nationalText (value : String) :
    lex (nationalText value) = some [.text true value] := by
  rw [lex, run, scan_nationalText]
  show some ([] ++ [Token.text true (inOrder value.toList.reverse)]) = _
  rw [inOrder_reverse]
  rfl

def bracketed (part : String) : List Char := '[' :: double ']' part.toList ++ [']']

theorem scan_bracketed {mode : Mode} {parts : List String}
    (h : read mode '[' = ([], .name parts [])) (part : String) :
    scan mode (bracketed part) = ([], .nameEnd parts part.toList.reverse) := by
  show scan mode (['['] ++ double ']' part.toList ++ [']']) = _
  have hopen : scan mode ['['] = ([], .name parts []) := by
    rw [scan, h]
    rfl
  rw [List.append_assoc, scan_append, hopen, scan_append, scan_double_bracket]
  simp [scan, read]

def quotedName : Option String → String → List Char
  | none, table => bracketed table
  | some schema, table => bracketed schema ++ '.' :: bracketed table

theorem scan_quotedName (schema : Option String) (table : String) :
    scan .gap (quotedName schema table) = ([], .nameEnd schema.toList table.toList.reverse) := by
  cases schema with
  | none => exact scan_bracketed rfl table
  | some schema =>
    have hfirst : scan .gap (bracketed schema) = ([], .nameEnd [] schema.toList.reverse) :=
      scan_bracketed rfl schema
    have hdot : scan (.nameEnd [] schema.toList.reverse) ['.'] = ([], .nameDot [schema]) := by
      simp [scan, read, inOrder]
    have hsecond : scan (.nameDot [schema]) (bracketed table) =
        ([], .nameEnd [schema] table.toList.reverse) := scan_bracketed rfl table
    show scan .gap (bracketed schema ++ (['.'] ++ bracketed table)) = _
    rw [scan_append, hfirst, scan_append, hdot, hsecond]
    rfl

theorem run_quotedName (schema : Option String) (table : String) {c : Char} (hc : Stops c)
    (cs : List Char) :
    run .gap (quotedName schema table ++ c :: cs) =
      (run .gap (c :: cs)).map (.name (schema.toList ++ [table]) :: ·) := by
  have hread : read (.nameEnd schema.toList table.toList.reverse) c =
      readAfter [.name (schema.toList ++ [table])] c := by
    rw [read, if_neg hc.2.1, if_neg hc.2.2, inOrder_reverse]
  rw [run_append (scan_quotedName schema table), run_cons_of_readAfter hread, Option.map_map]
  rfl

theorem lex_quotedName (schema : Option String) (table : String) :
    lex (quotedName schema table) = some [.name (schema.toList ++ [table])] := by
  rw [lex, run, scan_quotedName]
  show some ([] ++ [Token.name (schema.toList ++ [inOrder table.toList.reverse])]) = _
  rw [inOrder_reverse]
  rfl

theorem literal_toList {text : String} {chars : List Char} (h : text = String.ofList chars) :
    text.toList = chars := by
  rw [h, String.toList_ofList]

/-- A piece of fixed text that completes `tokens` and may follow a quoted value. -/
structure Piece (text : String) (tokens : List Token) : Prop where
  starts : ∃ c cs, text.toList = c :: cs ∧ Stops c
  scans : scan .gap text.toList = (tokens, .gap)

/-- What makes the characters of a literal a piece. Its `toList` would have to be decoded first. -/
def Fixed (chars : List Char) (tokens : List Token) : Prop :=
  (chars.head?.any fun c => Stops c) = true ∧ scan .gap chars = (tokens, .gap)

instance (chars : List Char) (tokens : List Token) : Decidable (Fixed chars tokens) :=
  inferInstanceAs (Decidable (_ ∧ _))

theorem Fixed.piece {chars : List Char} {tokens : List Token} (h : Fixed chars tokens) :
    Piece (String.ofList chars) tokens := by
  obtain ⟨hstarts, hscans⟩ := h
  obtain ⟨c, hc, hstops⟩ := Option.any_eq_true .. |>.1 hstarts
  obtain ⟨cs, hcs⟩ := List.head?_eq_some_iff.1 hc
  constructor
  · exact ⟨c, cs, (String.toList_ofList).trans hcs, of_decide_eq_true hstops⟩
  · rw [String.toList_ofList]
    exact hscans

theorem Piece.append {text other : String} {tokens more : List Token} (h : Piece text tokens)
    (hother : Piece other more) : Piece (text ++ other) (tokens ++ more) := by
  obtain ⟨c, cs, htext, hc⟩ := h.starts
  refine ⟨⟨c, cs ++ other.toList, ?_, hc⟩, ?_⟩
  · rw [String.toList_append, htext, List.cons_append]
  · rw [String.toList_append, scan_append, h.scans, hother.scans]

theorem Piece.join {first : String} {lines : List String} {tokens : List Token}
    {more : List (List Token)} (hfirst : Piece first tokens)
    (h : List.Forall₂ Piece lines more) :
    Piece (String.join (first :: lines)) (tokens :: more).flatten := by
  rw [String.join_cons, List.flatten_cons]
  induction h generalizing first tokens with
  | nil =>
    rw [String.join_nil, String.append_empty, List.flatten_nil, List.append_nil]
    exact hfirst
  | cons hline _ ih =>
    rw [String.join_cons, List.flatten_cons]
    exact hfirst.append (ih hline)

theorem pieces_of_fixed {lines : List String} {spelled : List (List Char)}
    {tokens : List (List Token)}
    (hspelled : List.Forall₂ (fun line chars => line = String.ofList chars) lines spelled)
    (h : List.Forall₂ Fixed spelled tokens) : List.Forall₂ Piece lines tokens := by
  induction hspelled generalizing tokens with
  | nil =>
    cases h
    exact .nil
  | cons hline _ ih =>
    cases h with
    | cons hfixed hlater =>
      rw [hline]
      exact .cons hfixed.piece (ih hlater)

theorem Piece.fixed {first : String} {lines : List String} {spelled : List (List Char)}
    {tokens : List (List Token)}
    (hspelled : List.Forall₂ (fun line chars => line = String.ofList chars) (first :: lines) spelled)
    (h : List.Forall₂ Fixed spelled tokens) :
    Piece (String.join (first :: lines)) tokens.flatten := by
  cases pieces_of_fixed hspelled h with
  | cons hfirst hlater => exact hfirst.join hlater

theorem Piece.run {text : String} {tokens : List Token} (h : Piece text tokens)
    (rest : List Char) :
    Sql.run .gap (text.toList ++ rest) = (Sql.run .gap rest).map (tokens ++ ·) :=
  run_append h.scans rest

theorem Piece.lex {text : String} {tokens : List Token} (h : Piece text tokens) :
    Sql.lex text.toList = some tokens := by
  rw [Sql.lex, Sql.run, h.scans]
  show some (tokens ++ []) = _
  rw [List.append_nil]

theorem Piece.run_after_text {text : String} {tokens : List Token} (h : Piece text tokens)
    (value : String) (rest : List Char) :
    Sql.run .gap (nationalText value ++ (text.toList ++ rest)) =
      (Sql.run .gap rest).map (.text true value :: tokens ++ ·) := by
  obtain ⟨c, cs, htext, hc⟩ := h.starts
  have hrun := h.run rest
  rw [htext, List.cons_append] at hrun ⊢
  rw [run_nationalText value hc, hrun, Option.map_map]
  rfl

theorem Piece.run_after_name {text : String} {tokens : List Token} (h : Piece text tokens)
    (schema : Option String) (table : String) (rest : List Char) :
    Sql.run .gap (quotedName schema table ++ (text.toList ++ rest)) =
      (Sql.run .gap rest).map (.name (schema.toList ++ [table]) :: tokens ++ ·) := by
  obtain ⟨c, cs, htext, hc⟩ := h.starts
  have hrun := h.run rest
  rw [htext, List.cons_append] at hrun ⊢
  rw [run_quotedName schema table hc, hrun, Option.map_map]
  rfl

end Sql
