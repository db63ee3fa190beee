/-
# The template literal of a path is a piece

A path may hold whatever would end a template literal or begin an interpolation. Layout
reads its escapes as a script does, so the literal ends at its last quote, and each
interpolation it sees is one of a placeholder.
-/

import TypedClient.Proofs.Layout.Value
import TypedClient.Proofs.Url.Evaluation

namespace TypedClient.UrlTemplate

open Layout

/-- The rest of a template literal with its closing quote. -/
structure ClosesTemplate (text : List Char) : Prop where
  nonempty : text ≠ []
  noFeed : '\n' ∉ text
  scans : ∀ {scanner : Scanner} {line level : Nat}, scanner.InCode →
    text.foldlM (Scanner.feed line level) (scanner.opened line level [.template], .plain) =
      .ok (scanner, .plain)

section

variable {scanner : Scanner} {line level : Nat}

theorem feed_template (inCode : scanner.InCode) (c : Char) :
    Scanner.feed line level (scanner.opened line level [.template], .plain) c =
      .ok ((scanner.opened line level [.template]).feedTemplate c) := by
  simp [Scanner.feed, Scanner.opened, Scanner.inTemplate, inCode.comment]

/-- A dollar sign stands for itself unless a brace follows. -/
theorem foldlM_afterDollar (inCode : scanner.InCode) {text : List Char} (nonempty : text ≠ [])
    (noBrace : text.head? ≠ some '{') :
    text.foldlM (Scanner.feed line level)
        (scanner.opened line level [.template], .afterDollar) =
      text.foldlM (Scanner.feed line level) (scanner.opened line level [.template], .plain) := by
  obtain ⟨c, rest, rfl⟩ := List.exists_cons_of_ne_nil nonempty
  have differs : c ≠ '{' := fun same => noBrace (by rw [same]; rfl)
  have fed : Scanner.feed line level (scanner.opened line level [.template], .afterDollar) c =
      .ok ((scanner.opened line level [.template]).feedTemplate c) := by
    simp [Scanner.feed, differs]
  rw [Scanner.foldlM_cons_of_eq_ok fed, Scanner.foldlM_cons_of_eq_ok (feed_template inCode c)]

/-- Escaped text is passed over. -/
theorem foldlM_escapeTemplate (inCode : scanner.InCode) (text : List Char) {rest : List Char}
    (nonempty : rest ≠ []) (noBrace : rest.head? ≠ some '{') :
    (escapeTemplate text ++ rest).foldlM (Scanner.feed line level)
        (scanner.opened line level [.template], .plain) =
      rest.foldlM (Scanner.feed line level) (scanner.opened line level [.template], .plain) := by
  fun_induction escapeTemplate text with
  | case1 => rfl
  | case2 text ih =>
      rw [List.cons_append, List.cons_append,
        Scanner.foldlM_cons_of_eq_ok (feed_template inCode '\\')]
      exact ih
  | case3 text ih =>
      rw [List.cons_append, List.cons_append,
        Scanner.foldlM_cons_of_eq_ok (feed_template inCode '\\')]
      exact ih
  | case4 text ih =>
      rw [List.cons_append, List.cons_append, List.cons_append,
        Scanner.foldlM_cons_of_eq_ok (feed_template inCode '\\')]
      refine Eq.trans ?_ ih
      exact Scanner.foldlM_cons_of_eq_ok rfl |>.trans
        (Scanner.foldlM_cons_of_eq_ok (feed_template inCode '{'))
  | case5 c text notBackslash notBackquote notOpening ih =>
      rw [List.cons_append, Scanner.foldlM_cons_of_eq_ok (feed_template inCode c)]
      by_cases dollar : c = '$'
      · have noBraceText : text.head? ≠ some '{' := by
          intro opens
          obtain ⟨after, rfl⟩ := List.head?_eq_some_iff.mp opens
          exact notOpening after dollar rfl
        have nonemptyAll : escapeTemplate text ++ rest ≠ [] := by simp [nonempty]
        rw [dollar]
        exact (foldlM_afterDollar inCode nonemptyAll
          (Script.head?_escapeTemplate_append noBraceText noBrace)).trans ih
      · have plain : (scanner.opened line level [.template]).feedTemplate c =
            (scanner.opened line level [.template], .plain) := by
          unfold Scanner.feedTemplate
          split
          · exact absurd rfl notBackslash
          · exact absurd rfl notBackquote
          · exact absurd rfl dollar
          · rfl
        rw [plain, ih]

/-- An interpolation of a piece is passed over. -/
theorem foldlM_interpolation (inCode : scanner.InCode) {text : List Char} (piece : Piece text [])
    (rest : List Char) :
    ('$' :: '{' :: (text ++ '}' :: rest)).foldlM (Scanner.feed line level)
        (scanner.opened line level [.template], .plain) =
      rest.foldlM (Scanner.feed line level) (scanner.opened line level [.template], .plain) := by
  let inside := scanner.opened line level [.interpolation, .template]
  have code : inside.InCode := ⟨inCode.comment, rfl⟩
  have opened : Scanner.feed line level
      (scanner.opened line level [.template], .afterDollar) '{' = .ok (inside, .plain) := rfl
  have closed : Scanner.feed line level (inside, .plain) '}' =
      .ok (scanner.opened line level [.template], .plain) := code.feed_closer rfl rfl
  have dollar : Scanner.feed line level (scanner.opened line level [.template], .plain) '$' =
      .ok (scanner.opened line level [.template], .afterDollar) := feed_template inCode '$'
  rw [Scanner.foldlM_cons_of_eq_ok dollar, Scanner.foldlM_cons_of_eq_ok opened,
    Scanner.foldlM_append_of_eq_ok (piece.scans code), Scanner.opened_nil,
    Scanner.foldlM_cons_of_eq_ok closed]

end

/-! ## Parts of a path -/

namespace ClosesTemplate

variable {text rest : List Char}

theorem quote : ClosesTemplate ['\x60'] := by
  refine ⟨by decide, by decide, fun inCode => ?_⟩
  rw [Scanner.foldlM_cons_of_eq_ok (feed_template inCode '\x60')]
  rfl

theorem not_mem_escapeTemplate (noFeed : '\n' ∉ text) : '\n' ∉ escapeTemplate text := by
  fun_induction escapeTemplate text with
  | case1 => exact List.not_mem_nil
  | case2 text ih => simpa using ih fun member => noFeed (List.mem_cons_of_mem _ member)
  | case3 text ih => simpa using ih fun member => noFeed (List.mem_cons_of_mem _ member)
  | case4 text ih =>
      simpa using ih fun member =>
        noFeed (List.mem_cons_of_mem _ (List.mem_cons_of_mem _ member))
  | case5 c text notBackslash notBackquote notOpening ih =>
      have tail := ih fun member => noFeed (List.mem_cons_of_mem _ member)
      intro member
      rcases List.mem_cons.mp member with isChar | inText
      · exact noFeed (isChar ▸ List.mem_cons_self)
      · exact tail inText

theorem literal (noFeed : '\n' ∉ text) (noBrace : rest.head? ≠ some '{')
    (closes : ClosesTemplate rest) : ClosesTemplate (escapeTemplate text ++ rest) := by
  refine ⟨by simp [closes.nonempty], fun member => ?_, fun inCode => ?_⟩
  · exact (List.mem_append.mp member).elim (not_mem_escapeTemplate noFeed) closes.noFeed
  · rw [foldlM_escapeTemplate inCode text closes.nonempty noBrace, closes.scans inCode]

theorem placeholder {object : String} (piece : Piece object.toList []) (name : String)
    (closes : ClosesTemplate rest) :
    ClosesTemplate ((partLiteral object (.placeholder name)).toList ++ rest) := by
  have access := piece_propertyAccess piece name
  have shape : (partLiteral object (.placeholder name)).toList ++ rest =
      '$' :: '{' :: ((Naming.propertyAccess object name).toList ++ '}' :: rest) := by
    simp [partLiteral]
  rw [shape]
  refine ⟨List.cons_ne_nil _ _, fun member => ?_, fun inCode => ?_⟩
  · simp only [List.mem_cons, List.mem_append] at member
    rcases member with isDollar | isBrace | inAccess | isBrace | inRest
    · exact absurd isDollar (by decide)
    · exact absurd isBrace (by decide)
    · exact access.noFeed inAccess
    · exact absurd isBrace (by decide)
    · exact closes.noFeed inRest
  · rw [foldlM_interpolation inCode access, closes.scans inCode]

/-- A stretch of text in front of a placeholder or of the closing quote. -/
theorem literalPart (object : String) {reversed : List Char} (noFeed : '\n' ∉ reversed)
    (noBrace : rest.head? ≠ some '{') (closes : ClosesTemplate rest) :
    ClosesTemplate (literalText object (literalPart reversed) ++ rest) := by
  cases reversed with
  | nil => exact closes
  | cons c reversed =>
      have noFeedText : '\n' ∉ (c :: reversed).reverse := by rwa [List.mem_reverse]
      have escaped := closes.literal noFeedText noBrace
      simpa [literalText, UrlTemplate.literalPart, partLiteral] using escaped

/-- The parts of a path close the literal they stand in, at every point of reading
the path. -/
theorem partsFrom {object : String} (piece : Piece object.toList []) (text : List Char)
    (name? : Option (List Char)) (path : List Char) (noFeedText : '\n' ∉ text)
    (noFeedName : ∀ name ∈ name?, '\n' ∉ name) (noFeed : '\n' ∉ path) :
    ClosesTemplate (literalText object (partsFrom text name? path) ++ ['\x60']) := by
  fun_induction UrlTemplate.partsFrom text name? path with
  | case1 text => exact quote.literalPart object noFeedText (by decide)
  | case2 text name =>
      exact quote.literalPart object (by simp [noFeedName name rfl, noFeedText]) (by decide)
  | case3 text c rest opens ih =>
      exact ih noFeedText (by simp) fun member => noFeed (List.mem_cons_of_mem _ member)
  | case4 text c rest notOpens ih =>
      simp only [List.mem_cons, not_or] at noFeed
      exact ih (by simp [noFeed.1, noFeedText]) noFeedName noFeed.2
  | case5 text name c rest closes ih =>
      have tail := ih (by simp) (by simp) fun member => noFeed (List.mem_cons_of_mem _ member)
      have filled := tail.placeholder piece (String.ofList name.reverse)
      have start : ((partLiteral object (.placeholder (String.ofList name.reverse))).toList ++
          (literalText object (UrlTemplate.partsFrom [] none rest) ++ ['\x60'])).head? ≠
            some '{' := by
        simp [partLiteral]
      have whole := filled.literalPart object noFeedText start
      simpa [literalText] using whole
  | case6 text name c rest notCloses ih =>
      simp only [List.mem_cons, not_or] at noFeed
      refine ih noFeedText ?_ noFeed.2
      rintro grown ⟨⟩
      simp [noFeed.1, noFeedName name rfl]

end ClosesTemplate

/-- The template literal of a path without a line feed is a piece. -/
theorem piece_toTemplateLiteral {path object : String} (noFeed : '\n' ∉ path.toList)
    (piece : Piece object.toList []) :
    Piece ((parse path).toTemplateLiteral object).toList [] := by
  have closes := ClosesTemplate.partsFrom piece [] none path.toList (by simp) (by simp) noFeed
  have shape : ((parse path).toTemplateLiteral object).toList =
      '\x60' :: (literalText object (UrlTemplate.partsFrom [] none path.toList) ++ ['\x60']) := by
    simp [toTemplateLiteral, literalText, List.flatMap_map, parse]
  rw [shape]
  refine ⟨?_, List.not_mem_nil, fun inCode => ?_⟩
  · exact fun member => (List.mem_cons.mp member).elim (by decide) closes.noFeed
  · rw [Scanner.foldlM_cons_of_eq_ok (inCode.feed '\x60')]
    exact closes.scans inCode

end TypedClient.UrlTemplate
