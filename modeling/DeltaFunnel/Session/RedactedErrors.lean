import DeltaFunnel.Session.LoadErrors
import Mathlib.Algebra.GroupWithZero.Nat

/-! The credentials of the first URI of a token are not shown, and those of a later one are. -/

namespace DeltaFunnel

def Clean (text : List Char) : Prop := ∀ c ∈ text, c ≠ '?' ∧ c ≠ '#'

theorem stripFragmentAndQuery_append {first : List Char} (h : Clean first)
    (second : List Char) :
    stripFragmentAndQuery (first ++ second) = first ++ stripFragmentAndQuery second := by
  unfold stripFragmentAndQuery
  apply List.takeWhile_append_of_pos
  intro c hc
  exact decide_eq_true (h c hc)

theorem stripFragmentAndQuery_of_not_clean {first : List Char} (h : ¬ Clean first)
    (second : List Char) :
    stripFragmentAndQuery (first ++ second) = stripFragmentAndQuery first := by
  induction first with
  | nil => exact absurd (fun c hc => absurd hc List.not_mem_nil) h
  | cons c cs ih =>
    unfold stripFragmentAndQuery at ih ⊢
    rw [List.cons_append, List.takeWhile_cons, List.takeWhile_cons]
    split
    · next hc =>
      have hcs : ¬ Clean cs := by
        intro hclean
        exact h (List.forall_mem_cons.2 ⟨of_decide_eq_true hc, hclean⟩)
      rw [ih hcs]
    · rfl

theorem clean_append {first second : List Char} :
    Clean (first ++ second) ↔ Clean first ∧ Clean second :=
  List.forall_mem_append

theorem splitScheme_append {first : List Char}
    (h : containsChars schemeMark first = false) (second : List Char) :
    splitScheme (first ++ schemeMark ++ second) = some (first ++ schemeMark, second) := by
  induction first with
  | nil => rfl
  | cons c cs ih =>
    obtain ⟨hstarts, hcs⟩ := Bool.or_eq_false_iff.1 h
    have hcons : splitScheme (c :: (cs ++ schemeMark ++ second)) =
        (splitScheme (cs ++ schemeMark ++ second)).map fun parts => (c :: parts.1, parts.2) := by
      rw [splitScheme]
      intro rest hc hrest
      -- the mark does not overlap itself, so it would already stand in `c :: cs`
      subst hc
      cases cs with
      | nil => exact absurd (List.cons.inj hrest).1 (by decide)
      | cons d ds =>
        obtain ⟨hd, hds⟩ := List.cons.inj hrest
        cases ds with
        | nil => exact absurd (List.cons.inj hds).1 (by decide)
        | cons e es =>
          obtain ⟨he, -⟩ := List.cons.inj hds
          rw [hd, he] at hstarts
          exact Bool.noConfusion (show true = false from hstarts)
    rw [List.cons_append, List.cons_append, hcons, ih hcs]
    rfl

/-- What is shown of a text that starts within an authority. -/
def visibleAuthority (rest : List Char) : List Char :=
  ((rest.takeWhile (· ≠ '/')).reverse.takeWhile (· ≠ '@')).reverse ++ rest.dropWhile (· ≠ '/')

theorem takeWhile_append_stop {α : Type} {p : α → Bool} {c : α} (hc : p c = false)
    (first second : List α) :
    (first ++ c :: second).takeWhile p = first.takeWhile p := by
  induction first with
  | nil => rw [List.nil_append, List.takeWhile_cons, hc, List.takeWhile_nil]; rfl
  | cons d ds ih =>
    rw [List.cons_append, List.takeWhile_cons, List.takeWhile_cons, ih]

theorem stripUserinfo_append {first userinfo : List Char}
    (hfirst : containsChars schemeMark first = false) (huserinfo : '/' ∉ userinfo)
    (rest : List Char) :
    stripUserinfo (first ++ schemeMark ++ (userinfo ++ '@' :: rest)) =
      first ++ schemeMark ++ visibleAuthority rest := by
  have hstart : ∀ c ∈ userinfo ++ ['@'], decide (c ≠ '/') = true := by
    intro c hc
    apply decide_eq_true
    intro heq
    rcases List.mem_append.1 hc with hmem | hmem
    · exact huserinfo (heq ▸ hmem)
    · rw [heq] at hmem
      exact absurd hmem (by decide)
  have hsplit : userinfo ++ '@' :: rest = (userinfo ++ ['@']) ++ rest := by
    rw [List.append_assoc]
    rfl
  have htake : (userinfo ++ '@' :: rest).takeWhile (· ≠ '/') =
      userinfo ++ '@' :: rest.takeWhile (· ≠ '/') := by
    rw [hsplit, List.takeWhile_append_of_pos hstart, List.append_assoc]
    rfl
  have hdrop : (userinfo ++ '@' :: rest).dropWhile (· ≠ '/') = rest.dropWhile (· ≠ '/') := by
    rw [hsplit, List.dropWhile_append_of_pos hstart]
  unfold stripUserinfo visibleAuthority
  rw [splitScheme_append hfirst]
  dsimp only
  rw [htake, hdrop, if_pos (List.mem_append_right _ List.mem_cons_self), List.reverse_append,
    List.reverse_cons, List.append_assoc, List.append_assoc, List.append_assoc]
  show _ ++ (_ ++ ((List.takeWhile _ (_ ++ '@' :: userinfo.reverse)).reverse ++ _)) = _
  rw [takeWhile_append_stop (by decide)]
  exact (List.append_assoc first schemeMark _).symm

theorem dropWhile_append_stop {α : Type} {p : α → Bool} {c : α} (hc : p c = false)
    (first second : List α) :
    (first ++ c :: second).dropWhile p = first.dropWhile p ++ c :: second := by
  induction first with
  | nil =>
    rw [List.nil_append, List.dropWhile_cons, hc]
    rfl
  | cons d ds ih =>
    rw [List.cons_append, List.dropWhile_cons, List.dropWhile_cons]
    split
    · exact ih
    · rfl

theorem exists_first_mark {text : List Char} (h : containsChars schemeMark text = true) :
    ∃ before after, containsChars schemeMark before = false ∧
      text = before ++ schemeMark ++ after := by
  induction text with
  | nil => exact absurd h (by decide)
  | cons c cs ih =>
    by_cases hstarts : schemeMark.isPrefixOf (c :: cs) = true
    · obtain ⟨after, hafter⟩ := List.isPrefixOf_iff_prefix.1 hstarts
      exact ⟨[], after, rfl, hafter.symm⟩
    · have hcs : containsChars schemeMark cs = true :=
        (Bool.or_eq_true_iff.1 h).resolve_left hstarts
      obtain ⟨before, after, hbefore, rfl⟩ := ih hcs
      refine ⟨c :: before, after, ?_, rfl⟩
      apply Bool.or_eq_false_iff.2
      refine ⟨?_, hbefore⟩
      apply Bool.eq_false_iff.2
      intro hmark
      apply hstarts
      rw [List.isPrefixOf_iff_prefix] at hmark ⊢
      rw [List.append_assoc]
      exact hmark.trans (List.prefix_append (c :: before) _)

theorem stripUserinfo_later {first : List Char} (hfirst : containsChars schemeMark first = true)
    (rest : List Char) :
    stripUserinfo (first ++ schemeMark ++ rest) =
      stripUserinfo (first ++ schemeMark) ++ rest := by
  obtain ⟨before, after, hbefore, rfl⟩ := exists_first_mark hfirst
  have hlong : before ++ schemeMark ++ after ++ schemeMark ++ rest =
      before ++ schemeMark ++ (after ++ [':'] ++ '/' :: ('/' :: rest)) := by
    simp only [schemeMark, List.append_assoc, List.cons_append, List.nil_append]
  have hshort : before ++ schemeMark ++ after ++ schemeMark =
      before ++ schemeMark ++ (after ++ [':'] ++ '/' :: ['/']) := by
    simp only [schemeMark, List.append_assoc, List.cons_append, List.nil_append]
  rw [hlong, hshort]
  unfold stripUserinfo
  rw [splitScheme_append hbefore, splitScheme_append hbefore]
  dsimp only
  rw [takeWhile_append_stop (c := '/') (by decide), dropWhile_append_stop (c := '/') (by decide),
    takeWhile_append_stop (c := '/') (by decide), dropWhile_append_stop (c := '/') (by decide)]
  split
  · simp only [List.append_assoc, List.cons_append, List.nil_append]
  · simp only [List.append_assoc, List.cons_append, List.nil_append]

theorem containsChars_append {pattern first : List Char}
    (h : containsChars pattern first = true) (second : List Char) :
    containsChars pattern (first ++ second) = true := by
  induction first with
  | nil =>
    have hpattern : pattern = [] := List.isEmpty_iff.1 h
    cases second with
    | nil => exact h
    | cons c cs =>
      rw [hpattern]
      rfl
  | cons c cs ih =>
    apply Bool.or_eq_true_iff.2
    rcases Bool.or_eq_true_iff.1 h with hstarts | hcs
    · left
      rw [List.isPrefixOf_iff_prefix] at hstarts ⊢
      exact hstarts.trans (List.prefix_append (c :: cs) second)
    · exact Or.inr (ih hcs)

theorem containsChars_append_right {pattern second : List Char}
    (h : containsChars pattern second = true) (first : List Char) :
    containsChars pattern (first ++ second) = true := by
  induction first with
  | nil => exact h
  | cons c cs ih => exact Bool.or_eq_true_iff.2 (Or.inr ih)

theorem containsChars_append_scheme {first : List Char}
    (hfirst : containsChars schemeMark first = false) {scheme : List Char}
    (hcolon : ':' ∉ scheme) (hslash : '/' ∉ scheme) :
    containsChars schemeMark (first ++ scheme) = false := by
  induction first with
  | nil =>
    show containsChars schemeMark scheme = false
    apply Bool.eq_false_iff.2
    intro hmark
    obtain ⟨before, after, -, rfl⟩ := exists_first_mark hmark
    exact hcolon (by simp [schemeMark])
  | cons c cs ih =>
    obtain ⟨hstarts, hcs⟩ := Bool.or_eq_false_iff.1 hfirst
    apply Bool.or_eq_false_iff.2
    refine ⟨?_, ih hcs⟩
    apply Bool.eq_false_iff.2
    intro hmark
    obtain ⟨after, hafter⟩ := List.isPrefixOf_iff_prefix.1 hmark
    obtain ⟨hc, htail⟩ := List.cons.inj hafter
    cases cs with
    | nil =>
      exact hslash (by rw [← show '/' :: '/' :: after = scheme from htail]; exact List.mem_cons_self)
    | cons d ds =>
      obtain ⟨hd, htail⟩ := List.cons.inj htail
      cases ds with
      | nil =>
        exact hslash (by rw [← show '/' :: after = scheme from htail]; exact List.mem_cons_self)
      | cons e es =>
        obtain ⟨he, -⟩ := List.cons.inj htail
        rw [← hc, ← hd, ← he] at hstarts
        exact Bool.noConfusion (show true = false from hstarts)

theorem tokenText_cons (piece : Piece) (token : List Piece) :
    tokenText (piece :: token) = piece.text ++ tokenText token :=
  List.flatMap_cons

theorem tokenText_append (first second : List Piece) :
    tokenText (first ++ second) = tokenText first ++ tokenText second :=
  List.flatMap_append

/-- A URI that stands before every query and fragment of its token. -/
def VisibleUri (token : List Piece) (before : List Piece) (uri : Uri) : Prop :=
  (∃ after, token = before ++ .uri uri :: after) ∧ Clean (tokenText before)

/-- The scheme mark of every visible URI is the first of its token. -/
def OneVisibleUri (token : List Piece) : Prop :=
  ∀ before uri, VisibleUri token before uri → containsChars schemeMark (tokenText before) = false

theorem clean_front (uri : Uri) :
    Clean (uri.scheme ++ schemeMark ++ uri.userinfo ++ '@' :: (uri.host ++ uri.path)) := by
  intro c hc
  simp only [List.mem_append, List.mem_cons] at hc
  rcases hc with ((hc | hc) | hc) | rfl | hc | hc
  · have hfree := uri.scheme_free c hc
    simp only [List.mem_cons, not_or] at hfree
    exact ⟨hfree.2.2.1, hfree.2.2.2.1⟩
  · revert c
    decide
  · have hfree := uri.userinfo_free c hc
    simp only [List.mem_cons, not_or] at hfree
    exact ⟨hfree.2.1, hfree.2.2.1⟩
  · decide
  · have hfree := uri.host_free c hc
    simp only [List.mem_cons, not_or] at hfree
    exact ⟨hfree.2.1, hfree.2.2.1⟩
  · have hfree := uri.path_free c hc
    simp only [List.mem_cons, not_or] at hfree
    exact ⟨hfree.1, hfree.2.1⟩

/-- The text of a token up to its first query or fragment. -/
def visibleText (token : List Piece) : List Char := stripFragmentAndQuery (tokenText token)

theorem visibleText_eq_of_hidden {token other : List Piece}
    (hsame : List.Forall₂ SamePlace token other)
    (hhidden : ∀ before uri, ¬ VisibleUri token before uri) :
    visibleText token = visibleText other := by
  induction hsame with
  | nil => rfl
  | cons hpiece hrest ih =>
    next piece otherPiece token other =>
    cases hpiece with
    | uri hscheme hhost hpath htail =>
      exact absurd ⟨⟨token, rfl⟩, fun c hc => absurd hc List.not_mem_nil⟩ (hhidden [] _)
    | plain text hplain =>
      unfold visibleText
      rw [tokenText_cons, tokenText_cons]
      by_cases hclean : Clean text
      · have hrest' : ∀ before uri, ¬ VisibleUri token before uri := by
          intro before uri hvisible
          obtain ⟨⟨after, rfl⟩, hbefore⟩ := hvisible
          apply hhidden (.plain text hplain :: before) uri
          refine ⟨⟨after, rfl⟩, ?_⟩
          rw [tokenText_cons]
          exact clean_append.2 ⟨hclean, hbefore⟩
        have hih := ih hrest'
        unfold visibleText at hih
        show stripFragmentAndQuery (text ++ _) = stripFragmentAndQuery (text ++ _)
        rw [stripFragmentAndQuery_append hclean, stripFragmentAndQuery_append hclean, hih]
      · show stripFragmentAndQuery (text ++ _) = stripFragmentAndQuery (text ++ _)
        rw [stripFragmentAndQuery_of_not_clean hclean, stripFragmentAndQuery_of_not_clean hclean]

theorem containsChars_uri (uri : Uri) : containsChars schemeMark uri.text = true := by
  have hmark : containsChars schemeMark (uri.scheme ++ schemeMark) = true :=
    containsChars_append_right rfl uri.scheme
  unfold Uri.text
  rw [List.append_assoc _ uri.userinfo]
  exact containsChars_append hmark _

theorem stripFragmentAndQuery_tail {uri : Uri} (h : uri.tail ≠ []) (rest : List Char) :
    stripFragmentAndQuery (uri.tail ++ rest) = [] := by
  rcases uri.tail_start with hnil | hstart | hstart
  · exact absurd hnil h
  · obtain ⟨cs, hcs⟩ := List.head?_eq_some_iff.1 hstart
    rw [hcs]
    rfl
  · obtain ⟨cs, hcs⟩ := List.head?_eq_some_iff.1 hstart
    rw [hcs]
    rfl

theorem stripFragmentAndQuery_uri {before : List Char} (hclean : Clean before) (uri : Uri)
    (rest : List Char) :
    stripFragmentAndQuery (before ++ (uri.text ++ rest)) =
      before ++ uri.scheme ++ schemeMark ++ (uri.userinfo ++ '@' ::
        (uri.host ++ uri.path ++ stripFragmentAndQuery (uri.tail ++ rest))) := by
  have hfront : before ++ (uri.text ++ rest) = before ++
      (uri.scheme ++ schemeMark ++ uri.userinfo ++ '@' :: (uri.host ++ uri.path)) ++
      (uri.tail ++ rest) := by
    unfold Uri.text
    simp only [List.append_assoc, List.cons_append]
  rw [hfront, stripFragmentAndQuery_append (clean_append.2 ⟨hclean, clean_front uri⟩)]
  simp only [List.append_assoc, List.cons_append]

theorem strip_uri {before : List Char} (hclean : Clean before)
    (hmark : containsChars schemeMark before = false) (uri : Uri) (rest : List Char) :
    stripUserinfo (stripFragmentAndQuery (before ++ (uri.text ++ rest))) =
      before ++ uri.scheme ++ schemeMark ++ visibleAuthority
        (uri.host ++ uri.path ++ stripFragmentAndQuery (uri.tail ++ rest)) := by
  have hscheme : containsChars schemeMark (before ++ uri.scheme) = false := by
    apply containsChars_append_scheme hmark
    · intro hmem
      exact uri.scheme_free ':' hmem (by decide)
    · intro hmem
      exact uri.scheme_free '/' hmem (by decide)
  have huserinfo : '/' ∉ uri.userinfo := fun hmem => uri.userinfo_free '/' hmem (by decide)
  rw [stripFragmentAndQuery_uri hclean, stripUserinfo_append hscheme huserinfo]

theorem strip_later_uri {before : List Char} (hclean : Clean before)
    (hmark : containsChars schemeMark before = true) (uri : Uri) (rest : List Char) :
    stripUserinfo (stripFragmentAndQuery (before ++ (uri.text ++ rest))) =
      stripUserinfo (before ++ uri.scheme ++ schemeMark) ++ (uri.userinfo ++ '@' ::
        (uri.host ++ uri.path ++ stripFragmentAndQuery (uri.tail ++ rest))) := by
  rw [stripFragmentAndQuery_uri hclean,
    stripUserinfo_later (containsChars_append hmark uri.scheme)]

theorem strip_eq_of_same {token other : List Piece}
    (hsame : List.Forall₂ SamePlace token other) {start : List Char}
    (hone : ∀ before uri, (∃ after, token = before ++ .uri uri :: after) →
      Clean (start ++ tokenText before) →
      containsChars schemeMark (start ++ tokenText before) = false) :
    stripUserinfo (stripFragmentAndQuery (start ++ tokenText token)) =
      stripUserinfo (stripFragmentAndQuery (start ++ tokenText other)) := by
  -- over the pieces, with the text in front of them
  induction hsame generalizing start with
  | nil => rfl
  | cons hpiece hrest ih =>
    next piece otherPiece token other =>
    rw [tokenText_cons, tokenText_cons]
    cases hpiece with
    | plain text hplain =>
      have hnext : stripUserinfo (stripFragmentAndQuery (start ++ text ++ tokenText token)) =
          stripUserinfo (stripFragmentAndQuery (start ++ text ++ tokenText other)) := by
        apply ih
        intro before uri huri hclean
        obtain ⟨after, rfl⟩ := huri
        have hshape : start ++ tokenText (.plain text hplain :: before) =
            start ++ text ++ tokenText before := by
          rw [tokenText_cons, List.append_assoc]
          rfl
        rw [← hshape] at hclean ⊢
        exact hone (.plain text hplain :: before) uri ⟨after, rfl⟩ hclean
      rw [List.append_assoc, List.append_assoc] at hnext
      exact hnext
    | uri hscheme hhost hpath htail =>
      next uri otherUri =>
      -- behind a fragment or a query nothing is shown at all
      by_cases hclean : Clean start
      · have hmark : containsChars schemeMark start = false := by
          have hfirst := hone [] uri ⟨token, rfl⟩
          rw [show start ++ tokenText [] = start from List.append_nil start] at hfirst
          exact hfirst hclean
        show stripUserinfo (stripFragmentAndQuery (start ++ (uri.text ++ tokenText token))) =
          stripUserinfo (stripFragmentAndQuery (start ++ (otherUri.text ++ tokenText other)))
        rw [strip_uri hclean hmark, strip_uri hclean hmark, hscheme, hhost, hpath]
        by_cases hnil : uri.tail = []
        -- the first URI is visible, so any later one must be hidden
        · have hhidden : ∀ before later, ¬ VisibleUri token before later := by
            intro before later hvisible
            obtain ⟨⟨after, rfl⟩, hbefore⟩ := hvisible
            have hcleanUri : Clean uri.text := by
              have hfront := clean_front uri
              unfold Uri.text
              rw [hnil, List.append_nil]
              exact hfront
            have hlater := hone (.uri uri :: before) later ⟨after, rfl⟩ (by
              rw [tokenText_cons]
              exact clean_append.2 ⟨hclean, clean_append.2 ⟨hcleanUri, hbefore⟩⟩)
            rw [tokenText_cons] at hlater
            have hcontains := containsChars_append_right
              (containsChars_append (containsChars_uri uri) (tokenText before)) start
            rw [show (Piece.uri uri).text = uri.text from rfl, hcontains] at hlater
            exact Bool.noConfusion hlater
          have hvisible := visibleText_eq_of_hidden hrest hhidden
          unfold visibleText at hvisible
          rw [hnil, htail.1 hnil, List.nil_append, List.nil_append, hvisible]
        · have hother : otherUri.tail ≠ [] := fun hnil' => hnil (htail.2 hnil')
          rw [stripFragmentAndQuery_tail hnil, stripFragmentAndQuery_tail hother]
      · rw [stripFragmentAndQuery_of_not_clean hclean, stripFragmentAndQuery_of_not_clean hclean]

def shownChars (token : List Char) : List Char :=
  (if containsChars schemeMark token then stripUserinfo (stripFragmentAndQuery token)
    else token).flatMap escapeDefault

theorem sanitizeLoadToken_toList (token : String) :
    (sanitizeLoadToken token).toList = shownChars token.toList := by
  have hmark : "://".toList = schemeMark := by decide
  unfold sanitizeLoadToken shownChars containsText sanitizeUriForDisplay sanitizeTextForDisplay
  rw [hmark]
  split
  · rw [String.toList_ofList, String.toList_ofList]
  · rw [String.toList_ofList]

theorem same_or_marked {token other : List Piece} (hsame : List.Forall₂ SamePlace token other) :
    token = other ∨ containsChars schemeMark (tokenText token) = true ∧
      containsChars schemeMark (tokenText other) = true := by
  induction hsame with
  | nil => exact Or.inl rfl
  | cons hpiece hrest ih =>
    next piece otherPiece token other =>
    rw [tokenText_cons, tokenText_cons]
    cases hpiece with
    | uri hscheme hhost hpath htail =>
      next uri otherUri =>
      exact Or.inr ⟨containsChars_append (containsChars_uri uri) _,
        containsChars_append (containsChars_uri otherUri) _⟩
    | plain text hplain =>
      rcases ih with heq | ⟨htoken, hother⟩
      · exact Or.inl (congrArg (Piece.plain text hplain :: ·) heq)
      · exact Or.inr ⟨containsChars_append_right htoken text,
          containsChars_append_right hother text⟩

theorem shownChars_eq_of_same {token other : List Piece}
    (hsame : List.Forall₂ SamePlace token other) (hone : OneVisibleUri token) :
    shownChars (tokenText token) = shownChars (tokenText other) := by
  rcases same_or_marked hsame with rfl | ⟨htoken, hother⟩
  · rfl
  · unfold shownChars
    rw [if_pos htoken, if_pos hother]
    apply congrArg (List.flatMap escapeDefault)
    have hstrip : stripUserinfo (stripFragmentAndQuery ([] ++ tokenText token)) =
        stripUserinfo (stripFragmentAndQuery ([] ++ tokenText other)) := by
      apply strip_eq_of_same hsame
      intro before uri huri hclean
      exact hone before uri ⟨huri, hclean⟩
    exact hstrip

theorem splitWhitespace_text (text : ErrorText) :
    (text.text.toList.splitOnP isWhitespace) = text.tokens.map tokenText := by
  obtain ⟨first, rest, hseparators, hsolid⟩ := text
  unfold ErrorText.text ErrorText.tokens
  rw [String.toList_ofList]
  dsimp only at hsolid ⊢
  induction rest generalizing first with
  | nil =>
    rw [List.flatMap_nil, List.append_nil]
    exact List.splitOnP_eq_singleton (hsolid first List.mem_cons_self)
  | cons part rest ih =>
    obtain ⟨hpart, hrest⟩ := List.forall_mem_cons.1 hseparators
    obtain ⟨hfirst, hsolid'⟩ := List.forall_mem_cons.1 hsolid
    rw [List.flatMap_cons, List.cons_append,
      List.splitOnP_append_cons_of_forall_mem hfirst _ hpart, ih part.2 hrest hsolid']
    rfl

def shownTokens (text : ErrorText) : List (List Char) :=
  ((text.tokens.map tokenText).filter (· ≠ [])).map shownChars

theorem sanitizeSnapshotLoadCause_toList (text : ErrorText) :
    (sanitizeSnapshotLoadCause text.text).toList = [' '].intercalate (shownTokens text) := by
  unfold sanitizeSnapshotLoadCause splitWhitespace shownTokens
  rw [String.toList_intercalate, splitWhitespace_text, List.map_map, List.map_map]
  refine congrArg _ (List.map_congr_left ?_)
  intro token _
  show (sanitizeLoadToken (String.ofList token)).toList = shownChars token
  rw [sanitizeLoadToken_toList, String.toList_ofList]

theorem SameText.tokens {text other : ErrorText} (h : SameText text other) :
    List.Forall₂ (List.Forall₂ SamePlace) text.tokens other.tokens := by
  apply List.Forall₂.cons h.1
  rw [List.forall₂_map_left_iff, List.forall₂_map_right_iff]
  exact h.2.imp fun _ _ hpart => hpart.2

theorem shownTokens_eq_of_same {text other : ErrorText} (h : SameText text other)
    (hone : ∀ token ∈ text.tokens, OneVisibleUri token) :
    shownTokens text = shownTokens other := by
  have htokens := h.tokens
  unfold shownTokens
  generalize text.tokens = tokens at htokens hone
  generalize other.tokens = others at htokens
  induction htokens with
  | nil => rfl
  | cons hsame hrest ih =>
    next token otherToken tokens others =>
    obtain ⟨htoken, hrestOne⟩ := List.forall_mem_cons.1 hone
    have hshown := shownChars_eq_of_same hsame htoken
    have hempty : tokenText token = [] ↔ tokenText otherToken = [] := by
      rcases same_or_marked hsame with rfl | ⟨hmarked, hotherMarked⟩
      · rfl
      · constructor
        · intro hnil
          rw [hnil] at hmarked
          exact absurd hmarked (by decide)
        · intro hnil
          rw [hnil] at hotherMarked
          exact absurd hotherMarked (by decide)
    rw [List.map_cons, List.map_cons, List.filter_cons, List.filter_cons]
    by_cases hnil : tokenText token = []
    · rw [if_neg (by simp [hnil]), if_neg (by simp [hempty.1 hnil]), ih hrestOne]
    · rw [if_pos (by simp [hnil]), if_pos (by simp [mt hempty.2 hnil]), List.map_cons,
        List.map_cons, hshown, ih hrestOne]

theorem length_intercalate {α : Type} (separator : List α) {parts : List (List α)}
    (h : parts ≠ []) :
    (separator.intercalate parts).length + separator.length =
      (parts.map fun part => part.length + separator.length).sum := by
  induction parts with
  | nil => exact absurd rfl h
  | cons part parts ih =>
    rw [List.map_cons, List.sum_cons]
    by_cases hnil : parts = []
    · rw [hnil, List.intercalate_singleton]
      rfl
    · rw [List.intercalate_cons_of_ne_nil hnil, List.length_append, List.length_append, ← ih hnil]
      omega

theorem length_eq_of_intercalate {α : Type} {separator : List α} {before after : List (List α)}
    {part other : List α} (h : separator.intercalate (before ++ part :: after) =
      separator.intercalate (before ++ other :: after)) : part.length = other.length := by
  have hpart := length_intercalate separator
    (List.append_ne_nil_of_right_ne_nil before (List.cons_ne_nil part after))
  have hother := length_intercalate separator
    (List.append_ne_nil_of_right_ne_nil before (List.cons_ne_nil other after))
  rw [h, hother] at hpart
  simp only [List.map_append, List.map_cons, List.sum_append, List.sum_cons] at hpart
  omega

theorem SamePlace.refl (piece : Piece) : SamePlace piece piece := by
  cases piece with
  | uri uri => exact .uri rfl rfl rfl Iff.rfl
  | plain text h => exact .plain text h

theorem samePlace_token_refl (token : List Piece) : List.Forall₂ SamePlace token token :=
  List.forall₂_same.2 fun piece _ => SamePlace.refl piece

theorem exists_text_of_token {text : ErrorText} {before after : List (List Piece)}
    {token other : List Piece} (htokens : text.tokens = before ++ token :: after)
    (hsame : List.Forall₂ SamePlace token other)
    (hsolid : ∀ c ∈ tokenText other, isWhitespace c = false) :
    ∃ otherText : ErrorText, SameText text otherText ∧
      otherText.tokens = before ++ other :: after := by
  obtain ⟨first, rest, hseparators, hsolidText⟩ := text
  obtain ⟨hfirst, hrest⟩ := List.forall_mem_cons.1 hsolidText
  cases before with
  | nil =>
    obtain ⟨rfl, hafter⟩ := List.cons.inj htokens
    refine ⟨⟨other, rest, hseparators, List.forall_mem_cons.2 ⟨hsolid, hrest⟩⟩, ⟨hsame, ?_⟩, ?_⟩
    · exact List.forall₂_same.2 fun part _ => ⟨rfl, samePlace_token_refl part.2⟩
    · exact congrArg (other :: ·) hafter
  | cons head before =>
    obtain ⟨rfl, hmap⟩ := List.cons.inj htokens
    obtain ⟨restBefore, restFrom, rfl, hbefore, hfrom⟩ := List.map_eq_append_iff.1 hmap
    obtain ⟨part, restAfter, rfl, hpart, hafter⟩ := List.map_eq_cons_iff.1 hfrom
    obtain ⟨separator, partToken⟩ := part
    obtain rfl : partToken = token := hpart
    refine ⟨⟨first, restBefore ++ (separator, other) :: restAfter, ?_, ?_⟩, ⟨samePlace_token_refl first, ?_⟩,
      ?_⟩
    · intro part hpart
      rcases List.mem_append.1 hpart with hmem | hmem
      · exact hseparators part (List.mem_append_left _ hmem)
      · rcases List.mem_cons.1 hmem with rfl | hmem
        · exact hseparators (separator, partToken)
            (List.mem_append_right _ List.mem_cons_self)
        · exact hseparators part (List.mem_append_right _ (List.mem_cons_of_mem _ hmem))
    · rw [List.map_append, List.map_cons] at hrest ⊢
      rw [List.forall_mem_cons, List.forall_mem_append, List.forall_mem_cons] at ⊢
      rw [List.forall_mem_append, List.forall_mem_cons] at hrest
      exact ⟨hfirst, hrest.1, hsolid, hrest.2.2⟩
    · apply List.rel_append
      · exact List.forall₂_same.2 fun part _ => ⟨rfl, samePlace_token_refl part.2⟩
      · exact .cons ⟨rfl, hsame⟩ (List.forall₂_same.2 fun part _ => ⟨rfl, samePlace_token_refl part.2⟩)
    · unfold ErrorText.tokens
      dsimp only
      rw [List.map_append, List.map_cons, hbefore, hafter]
      rfl

def Uri.extend (uri : Uri) : Uri :=
  { uri with
    userinfo := uri.userinfo ++ ['a']
    userinfo_free := by
      rw [List.forall_mem_append]
      exact ⟨uri.userinfo_free, by decide⟩ }

theorem mem_extend_text {uri : Uri} {c : Char} (h : c ∈ uri.extend.text) :
    c = 'a' ∨ c ∈ uri.text := by
  unfold Uri.text Uri.extend at h
  unfold Uri.text
  simp only [List.mem_append, List.mem_cons, List.not_mem_nil, or_false] at h ⊢
  tauto

theorem length_shownChars_extend {before after : List Piece} {uri : Uri}
    (hclean : Clean (tokenText before))
    (hmark : containsChars schemeMark (tokenText before) = true) :
    (shownChars (tokenText (before ++ .uri uri.extend :: after))).length =
      (shownChars (tokenText (before ++ .uri uri :: after))).length + 1 := by
  have hshown (uri : Uri) : shownChars (tokenText (before ++ .uri uri :: after)) =
      (stripUserinfo (tokenText before ++ uri.scheme ++ schemeMark) ++ (uri.userinfo ++ '@' ::
        (uri.host ++ uri.path ++ stripFragmentAndQuery (uri.tail ++ tokenText after)))).flatMap
        escapeDefault := by
    have hshape : tokenText (before ++ .uri uri :: after) =
        tokenText before ++ (uri.text ++ tokenText after) := by
      rw [tokenText_append, tokenText_cons]
      rfl
    unfold shownChars
    rw [hshape, if_pos (containsChars_append hmark _), strip_later_uri hclean hmark]
  have hletter : (escapeDefault 'a').length = 1 := by decide
  rw [hshown, hshown]
  unfold Uri.extend
  simp only [List.flatMap_append, List.flatMap_cons, List.flatMap_nil, List.length_append,
    List.length_nil, hletter]
  omega

theorem oneVisibleUri_of_independent {text : ErrorText}
    (h : ∀ other, SameText text other →
      sanitizeSnapshotLoadCause other.text = sanitizeSnapshotLoadCause text.text) :
    ∀ token ∈ text.tokens, OneVisibleUri token := by
  intro token htoken before uri hvisible
  obtain ⟨⟨after, rfl⟩, hclean⟩ := hvisible
  by_contra hmark
  rw [Bool.not_eq_false] at hmark
  obtain ⟨tokensBefore, tokensAfter, htokens⟩ := List.append_of_mem htoken
  -- a second visible URI with one more character in its userinfo would show a longer text
  have hplace : List.Forall₂ SamePlace (before ++ .uri uri :: after)
      (before ++ .uri uri.extend :: after) := by
    apply List.rel_append (samePlace_token_refl before)
    exact .cons (.uri rfl rfl rfl Iff.rfl) (samePlace_token_refl after)
  have hsolid : ∀ c ∈ tokenText (before ++ .uri uri.extend :: after),
      isWhitespace c = false := by
    have htext := text.solid _ htoken
    intro c hc
    rw [tokenText_append, tokenText_cons, List.mem_append, List.mem_append] at hc
    rw [tokenText_append, tokenText_cons, List.forall_mem_append, List.forall_mem_append] at htext
    rcases hc with hc | hc | hc
    · exact htext.1 c hc
    · rcases mem_extend_text hc with rfl | hc
      · decide
      · exact htext.2.1 c hc
    · exact htext.2.2 c hc
  have hne (uri : Uri) : tokenText (before ++ .uri uri :: after) ≠ [] := by
    intro hnil
    rw [tokenText_append, List.append_eq_nil_iff] at hnil
    rw [hnil.1] at hmark
    exact absurd hmark (by decide)
  obtain ⟨other, hsame, hother⟩ := exists_text_of_token htokens hplace hsolid
  have hshown := congrArg String.toList (h other hsame)
  rw [sanitizeSnapshotLoadCause_toList, sanitizeSnapshotLoadCause_toList] at hshown
  unfold shownTokens at hshown
  rw [htokens, hother] at hshown
  simp only [List.map_append, List.map_cons, List.filter_append] at hshown
  rw [List.filter_cons, List.filter_cons, if_pos (decide_eq_true (hne uri.extend)),
    if_pos (decide_eq_true (hne uri)), List.map_cons, List.map_cons] at hshown
  have hlength := length_eq_of_intercalate hshown
  rw [length_shownChars_extend hclean hmark] at hlength
  omega

def Printable (text : List Char) : Prop := ∀ c ∈ text, 0x20 ≤ c.toNat ∧ c.toNat ≤ 0x7e

theorem Printable.append {first second : List Char} (h : Printable first)
    (h' : Printable second) : Printable (first ++ second) := by
  intro c hc
  rcases List.mem_append.1 hc with hc | hc
  · exact h c hc
  · exact h' c hc

theorem printable_hexDigit : ∀ n < 16, Printable [hexDigit n] := by
  unfold Printable
  decide

theorem printable_hexDigits (fuel n : ℕ) : Printable (hexDigits fuel n) := by
  induction fuel generalizing n with
  | zero => exact fun c hc => absurd hc List.not_mem_nil
  | succ fuel ih =>
    rw [hexDigits]
    split
    · next h => exact printable_hexDigit n h
    · exact (ih (n / 16)).append (printable_hexDigit (n % 16) (Nat.mod_lt n (by omega)))

theorem printable_escapeDefault (c : Char) : Printable (escapeDefault c) := by
  unfold escapeDefault Printable
  split
  · decide
  · split
    · decide
    · split
      · decide
      · split
        · next h =>
          rcases h with rfl | rfl | rfl
          · decide
          · decide
          · decide
        · split
          · next h => exact List.forall_mem_singleton.2 h
          · have hopen : Printable ['\\', 'u', '\x7b'] := by
              unfold Printable
              decide
            have hclose : Printable ['\x7d'] := by
              unfold Printable
              decide
            exact (hopen.append (printable_hexDigits 6 c.toNat)).append hclose

theorem printable_intercalate {parts : List (List Char)} (h : ∀ part ∈ parts, Printable part) :
    Printable ([' '].intercalate parts) := by
  induction parts with
  | nil => exact fun c hc => absurd hc List.not_mem_nil
  | cons part parts ih =>
    obtain ⟨hpart, hparts⟩ := List.forall_mem_cons.1 h
    by_cases hnil : parts = []
    · rw [hnil, List.intercalate_singleton]
      exact hpart
    · have hspace : Printable [' '] := by
        unfold Printable
        decide
      rw [List.intercalate_cons_of_ne_nil hnil, List.append_assoc]
      exact hpart.append (hspace.append (ih hparts))

theorem printable_sanitizeSnapshotLoadCause (cause : String) :
    Printable (sanitizeSnapshotLoadCause cause).toList := by
  unfold sanitizeSnapshotLoadCause
  rw [String.toList_intercalate]
  apply printable_intercalate
  intro part hpart
  obtain ⟨shown, hshown, rfl⟩ := List.mem_map.1 hpart
  obtain ⟨token, -, rfl⟩ := List.mem_map.1 hshown
  rw [sanitizeLoadToken_toList]
  intro c hc
  obtain ⟨d, -, hd⟩ := List.mem_flatMap.1 hc
  exact printable_escapeDefault d c hd

theorem sanitizeUriForDisplay_uri (uri : Uri) :
    sanitizeUriForDisplay (String.ofList uri.text) = sanitizeTextForDisplay
      (String.ofList (uri.scheme ++ schemeMark ++ uri.host ++ uri.path)) := by
  have hclean : Clean [] := fun c hc => absurd hc List.not_mem_nil
  have hstrip := strip_uri hclean rfl uri []
  rw [List.nil_append, List.append_nil, List.append_nil, List.nil_append] at hstrip
  have htail : stripFragmentAndQuery uri.tail = [] := by
    by_cases hnil : uri.tail = []
    · rw [hnil]
      rfl
    · have htail := stripFragmentAndQuery_tail hnil []
      rwa [List.append_nil] at htail
  have hauthority : visibleAuthority (uri.host ++ uri.path) = uri.host ++ uri.path := by
    have hhost : ∀ c ∈ uri.host, decide (c ≠ '/') = true ∧ decide (c ≠ '@') = true := by
      intro c hc
      have hfree := uri.host_free c hc
      simp only [List.mem_cons, not_or] at hfree
      exact ⟨decide_eq_true hfree.1, decide_eq_true hfree.2.2.2.1⟩
    have hreverse : uri.host.reverse.takeWhile (· ≠ '@') = uri.host.reverse := by
      apply List.takeWhile_eq_self_iff.2
      intro c hc
      exact (hhost c (List.mem_reverse.1 hc)).2
    have hpath : uri.path.takeWhile (· ≠ '/') = [] ∧ uri.path.dropWhile (· ≠ '/') = uri.path := by
      rcases uri.path_start with hnil | hstart
      · rw [hnil]
        exact ⟨rfl, rfl⟩
      · obtain ⟨cs, hcs⟩ := List.head?_eq_some_iff.1 hstart
        rw [hcs]
        exact ⟨rfl, rfl⟩
    unfold visibleAuthority
    rw [List.takeWhile_append_of_pos fun c hc => (hhost c hc).1,
      List.dropWhile_append_of_pos fun c hc => (hhost c hc).1, hpath.1, hpath.2, List.append_nil,
      hreverse, List.reverse_reverse]
  unfold sanitizeUriForDisplay
  rw [String.toList_ofList, hstrip, htail, List.append_nil, hauthority, List.append_assoc _ uri.host]

structure RedactsCredentials (text : ErrorText) : Prop where
  independent : ∀ other, SameText text other →
    sanitizeSnapshotLoadCause other.text = sanitizeSnapshotLoadCause text.text
  printable : Printable (sanitizeSnapshotLoadCause text.text).toList
  single : ∀ uri : Uri, sanitizeUriForDisplay (String.ofList uri.text) = sanitizeTextForDisplay
    (String.ofList (uri.scheme ++ schemeMark ++ uri.host ++ uri.path))

theorem sanitizeSnapshotLoadCause_eq_of_same {text other : ErrorText} (hsame : SameText text other)
    (hone : ∀ token ∈ text.tokens, OneVisibleUri token) :
    sanitizeSnapshotLoadCause other.text = sanitizeSnapshotLoadCause text.text := by
  apply String.toList_inj.1
  rw [sanitizeSnapshotLoadCause_toList, sanitizeSnapshotLoadCause_toList,
    shownTokens_eq_of_same hsame hone]

/-- Credentials stay hidden exactly when no token has a URI after another scheme mark. -/
theorem load_errors_redact_credentials_iff (text : ErrorText) :
    RedactsCredentials text ↔ ∀ token ∈ text.tokens, OneVisibleUri token := by
  constructor
  · intro h
    exact oneVisibleUri_of_independent h.independent
  · intro h
    refine ⟨?_, printable_sanitizeSnapshotLoadCause text.text, sanitizeUriForDisplay_uri⟩
    intro other hsame
    exact sanitizeSnapshotLoadCause_eq_of_same hsame h

/-- What is reported of a load that failed is printable, and tells credentials apart no more than
its cause does. -/
theorem snapshotLoadFailedReason_redacts (error : DeltaReaderError)
    (authMode : Option S3AuthModeHint) :
    Printable (snapshotLoadFailedReason error authMode).toList ∧
      ∀ (text other : ErrorText) (error' : DeltaReaderError),
        readerErrorSourceReason error = text.text → readerErrorSourceReason error' = other.text →
        SameText text other → (∀ token ∈ text.tokens, OneVisibleUri token) →
        snapshotLoadFailedReason error' authMode = snapshotLoadFailedReason error authMode := by
  constructor
  · have hlead : Printable (snapshotLoadFailed ++ ": ").toList := by
      unfold Printable
      decide
    have hhint : Printable (" " ++ s3ImplicitCredentialHint).toList := by
      unfold s3ImplicitCredentialHint
      rw [String.toList_append, String.toList_append, String.toList_append]
      refine .append ?_ (.append (.append ?_ ?_) ?_)
      all_goals
        unfold Printable
        decide +kernel
    have hreason := hlead.append
      (printable_sanitizeSnapshotLoadCause (readerErrorSourceReason error))
    unfold snapshotLoadFailedReason
    dsimp only
    split
    · rw [String.append_assoc, String.toList_append, String.toList_append]
      exact hreason.append hhint
    · rw [String.toList_append]
      exact hreason
  · intro text other error' herror herror' hsame hone
    unfold snapshotLoadFailedReason
    rw [herror, herror', sanitizeSnapshotLoadCause_eq_of_same hsame hone]

/-- `https://u@a/x` for a userinfo `u`. -/
def tableUri (userinfo : List Char) (h : ∀ c ∈ userinfo, c ∉ ['/', '?', '#']) : Uri where
  scheme := ['h', 't', 't', 'p', 's']
  userinfo := userinfo
  host := ['a']
  path := ['/', 'x']
  tail := []
  scheme_ne_nil := List.cons_ne_nil _ _
  scheme_free := by decide
  userinfo_free := h
  host_free := by decide
  path_free := by decide
  path_start := Or.inr rfl
  tail_start := Or.inl rfl

def passwordOf (old : Bool) : List Char := if old then ['p'] else ['q']

/-- Two URIs in one token, as a redirect may be reported: `https://@a/x,https://p@a/x`. -/
def redirectText (old : Bool) : ErrorText where
  first := [.uri (tableUri [] (by decide)), .plain [','] rfl,
    .uri (tableUri (passwordOf old) (by cases old <;> decide))]
  rest := []
  separators := by decide
  solid := by
    intro token htoken
    obtain rfl := List.mem_singleton.1 htoken
    cases old
    · decide
    · decide

/-- The second URI of the token shows its userinfo. -/
theorem redirect_shows_userinfo : ¬ ∀ text : ErrorText, RedactsCredentials text := by
  intro h
  have hsame : SameText (redirectText true) (redirectText false) := by
    refine ⟨?_, .nil⟩
    exact .cons (SamePlace.refl _) (.cons (SamePlace.refl _)
      (.cons (.uri rfl rfl rfl Iff.rfl) .nil))
  have hshown := (h (redirectText true)).independent _ hsame
  have hdiffer : sanitizeSnapshotLoadCause (redirectText false).text ≠
      sanitizeSnapshotLoadCause (redirectText true).text := by
    decide
  exact hdiffer hshown

end DeltaFunnel
