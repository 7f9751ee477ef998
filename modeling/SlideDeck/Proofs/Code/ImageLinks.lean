import SlideDeck.Proofs.Code.Respelling
import SlideDeck.Proofs.Text.Cuts
import Mathlib.Data.List.Forall2

/-!
# Where image links go up one directory

An image link is rewritten by what is put in before its root directory.  So the rewritten line is
the line cut at certain places, with the same text between the parts.  Which places these are can
be said without the scan: they stand behind the opening of a link, with the root of a path in
front of them.  An alternative text may have further openings in it, but no bracket that closes it
early, so no place is hidden inside of an earlier link.

* `ImageLink.IsTarget` — the places before the root of an image link; `isTarget_cons_iff`,
  `isTarget_opening_iff` and `isTarget_root_iff` find them along the scan.
* `ImageLink.exists_cutAt` — the rewritten line, part by part.
* `ImageLink.read_of_suffix_fixLine` — no link is left, so a second run finds nothing.
* `ProjectPath.fixImageLinks_inserts` — the whole document.
-/

set_option autoImplicit false

namespace SlideDeck

namespace ImageLink

/-! ## Links as they are written -/

/-- The directories of images and data, as a link names them. -/
def roots : List Text := ["images/".toList, "data/".toList]

/-- The start of a link before its path: the alternative text in its brackets, and the parenthesis
that opens the target. -/
def opening (alternative : Text) : Text := "![".toList ++ alternative ++ "](".toList

/-- **A link is read exactly where it is written.** -/
theorem read_eq_some_iff {s rest : Text} {b : ImageLink} :
    read s = some (b, rest) ↔
      ']' ∉ b.alternative ∧ b.root ∈ roots ∧ s = opening b.alternative ++ (b.root ++ rest) := by
  constructor
  · intro h
    obtain ⟨hroot, hs⟩ := read_eq_some h
    refine ⟨?_, hroot, by rw [hs, opening, List.append_assoc _ b.root rest]⟩
    simp only [read, Option.bind_eq_bind, Option.bind_eq_some_iff] at h
    obtain ⟨r, -, target, -, p, -, h⟩ := h
    obtain ⟨rfl, -⟩ := Prod.mk.inj (Option.some.inj h)
    exact fun hmem => absurd (List.mem_takeWhile_imp hmem) (by decide)
  · rintro ⟨halternative, hroot, rfl⟩
    obtain ⟨alternative, root⟩ := b
    dsimp only at halternative hroot ⊢
    obtain ⟨htake, hdrop⟩ := takeWhile_dropWhile_append_cons halternative ('(' :: (root ++ rest))
    have hparen : Text.after? "](".toList (']' :: '(' :: (root ++ rest)) = some (root ++ rest) :=
      Text.after?_append "](".toList _
    have htarget : Text.oneOf? ["images/".toList, "data/".toList] (root ++ rest)
        = some (root, rest) := by
      simp only [roots, List.mem_cons, List.not_mem_nil, or_false] at hroot
      rcases hroot with rfl | rfl <;> simp [Text.oneOf?, Text.after?]
    have hfront : Text.after? "![".toList (opening alternative ++ (root ++ rest))
        = some (alternative ++ ']' :: '(' :: (root ++ rest)) := by
      rw [opening, List.append_assoc, List.append_assoc]
      exact Text.after?_append _ _
    rw [read, hfront]
    simp only [Option.bind_eq_bind, Option.bind_some, htake, hdrop, hparen, htarget]
    rfl

theorem read_cons_of_ne {c : Char} (h : c ≠ '!') (s : Text) : read (c :: s) = none := by
  rw [Option.eq_none_iff_forall_ne_some]
  rintro ⟨b, rest⟩ hread
  obtain ⟨-, -, hs⟩ := read_eq_some_iff.1 hread
  exact h (List.cons.inj hs).1

/-- What goes up one directory behind the first closing bracket is no root. -/
theorem raised_ne {x x' root : Text} (hx : ']' ∉ x) (hx' : ']' ∉ x') (hroot : root ∈ roots)
    (y rest : Text) : x ++ "](../".toList ++ y ≠ x' ++ ("](".toList ++ (root ++ rest)) := by
  intro h
  have hsplit : x ++ ']' :: ("(../".toList ++ y) = x' ++ ']' :: ('(' :: (root ++ rest)) := by
    simpa using h
  obtain ⟨-, hbehind⟩ := Text.append_cons_inj hx hx' hsplit
  have hhead : ∀ root ∈ roots, root ≠ [] ∧ root.head? ≠ some '.' := by decide
  obtain ⟨hne, hdot⟩ := hhead root hroot
  obtain ⟨c, root, rfl⟩ := List.exists_cons_of_ne_nil hne
  exact hdot (congrArg some (List.cons.inj (List.cons.inj hbehind).2).1.symm)

theorem read_eq_none_of_raised {x : Text} (hx : ']' ∉ x) (y : Text) :
    read (x ++ "](../".toList ++ y) = none := by
  rw [Option.eq_none_iff_forall_ne_some]
  rintro ⟨b, rest⟩ h
  obtain ⟨halternative, hroot, hs⟩ := read_eq_some_iff.1 h
  rw [opening, List.append_assoc _ "](".toList] at hs
  exact raised_ne hx (List.not_mem_append (by decide) halternative) hroot y rest hs

/-! ## The places before a root -/

/-- Whether a link opens right before a place: its alternative text has no closing bracket. -/
def OpensBefore (front : Text) : Prop :=
  ∃ alternative, ']' ∉ alternative ∧ opening alternative <:+ front

/-- Whether a place is the one between the opening of a link and its root. -/
structure IsTarget (front rest : Text) : Prop where
  link : OpensBefore front
  root : ∃ root ∈ roots, root <+: rest

theorem OpensBefore.append {front : Text} (h : OpensBefore front) (x : Text) :
    OpensBefore (x ++ front) := by
  obtain ⟨alternative, halternative, hsuffix⟩ := h
  exact ⟨alternative, halternative, hsuffix.trans (List.suffix_append x front)⟩

theorem OpensBefore.paren_mem {front : Text} (h : OpensBefore front) : '(' ∈ front := by
  obtain ⟨alternative, -, hsuffix⟩ := h
  exact hsuffix.subset (List.mem_append_right _ (by decide))

/-- A front in which no link opens is not looked back at. -/
theorem opensBefore_append_iff {x : Text} (hx : '!' ∉ x) (front : Text) :
    OpensBefore (x ++ front) ↔ OpensBefore front := by
  refine ⟨?_, fun h => h.append x⟩
  rintro ⟨alternative, halternative, hsuffix⟩
  rcases suffix_append_cases hsuffix with h | ⟨t, hne, ht, heq⟩
  · exact ⟨alternative, halternative, h⟩
  · obtain ⟨c, t, rfl⟩ := List.exists_cons_of_ne_nil hne
    obtain ⟨rfl, -⟩ := List.cons.inj heq
    exact absurd (ht.subset (List.mem_cons_self ..)) hx

/-- Behind the opening of a link, the next one is a new one: the two do not share a bracket. -/
theorem opensBefore_cases {alternative front rest s : Text} (h : ']' ∉ alternative)
    (heq : front ++ rest = opening alternative ++ s) (hfront : OpensBefore front) :
    front = opening alternative ∨ ∃ f, front = opening alternative ++ f ∧ OpensBefore f := by
  have hplain : ']' ∉ "![".toList ++ alternative := List.not_mem_append (by decide) h
  obtain ⟨other, hother, y, rfl⟩ := hfront
  by_cases hy : ']' ∈ y
  · -- the first closing bracket stands before the opening, so it is the one of the link
    obtain ⟨y₁, y₂, rfl, hy₁⟩ := List.eq_append_cons_of_mem hy
    have hsplit : y₁ ++ ']' :: (y₂ ++ (opening other ++ rest))
        = ("![".toList ++ alternative) ++ ']' :: ('(' :: s) := by
      simpa [opening] using heq
    obtain ⟨rfl, hbehind⟩ := Text.append_cons_inj hy₁ hplain hsplit
    cases y₂ with
    | nil => exact absurd (List.cons.inj hbehind).1 (by decide)
    | cons c y₂ =>
      obtain ⟨rfl, -⟩ := List.cons.inj hbehind
      refine Or.inr ⟨y₂ ++ opening other, ?_, other, hother, List.suffix_append _ _⟩
      simp [opening]
  · have hopen : ']' ∉ y ++ ("![".toList ++ other) :=
      List.not_mem_append hy (List.not_mem_append (by decide) hother)
    have hsplit : (y ++ ("![".toList ++ other)) ++ ']' :: ('(' :: rest)
        = ("![".toList ++ alternative) ++ ']' :: ('(' :: s) := by
      simpa [opening] using heq
    obtain ⟨hsame, -⟩ := Text.append_cons_inj hopen hplain hsplit
    left
    rw [opening, ← List.append_assoc, hsame, opening]

/-! ## The places along the scan -/

theorem not_isTarget_nil (rest : Text) : ¬ IsTarget [] rest :=
  fun h => List.not_mem_nil h.link.paren_mem

/-- At a character that the scan passes by, no link opens whose root is a target. -/
theorem isTarget_cons_iff {a : Char} {s : Text} (hread : read (a :: s) = none) {front rest : Text}
    (heq : front ++ rest = a :: s) :
    IsTarget front rest ↔ ∃ f, front = a :: f ∧ IsTarget f rest := by
  constructor
  · rintro ⟨hlink, root, hroot, r, rfl⟩
    cases front with
    | nil => exact absurd hlink.paren_mem List.not_mem_nil
    | cons c f =>
      rw [List.cons_append] at heq
      obtain ⟨rfl, rfl⟩ := List.cons.inj heq
      refine ⟨f, rfl, ?_, root, hroot, List.prefix_append root r⟩
      obtain ⟨alternative, halternative, hsuffix⟩ := hlink
      rcases List.suffix_cons_iff.1 hsuffix with hwhole | hsuffix
      · have hlink : read (c :: (f ++ (root ++ r))) = some (⟨alternative, root⟩, r) := by
          refine read_eq_some_iff.2 ⟨halternative, hroot, ?_⟩
          rw [hwhole, List.cons_append]
        rw [hread] at hlink
        cases hlink
      · exact ⟨alternative, halternative, hsuffix⟩
  · rintro ⟨f, rfl, hlink, hroot⟩
    exact ⟨hlink.append [a], hroot⟩

/-- No place is inside of a root or right behind it. -/
theorem isTarget_root_iff {root s : Text} (hmem : root ∈ roots) {front rest : Text}
    (heq : front ++ rest = root ++ s) :
    IsTarget front rest ↔ ∃ f, front = root ++ f ∧ IsTarget f rest := by
  have hplain : ∀ root ∈ roots, '(' ∉ root ∧ '!' ∉ root := by decide
  obtain ⟨hparen, hmark⟩ := hplain root hmem
  constructor
  · rintro ⟨hlink, hroot⟩
    rcases Text.prefix_append_cases ⟨rest, heq⟩ with hfront | ⟨f, -, rfl⟩
    · exact absurd (hfront.subset hlink.paren_mem) hparen
    · exact ⟨f, rfl, (opensBefore_append_iff hmark f).1 hlink, hroot⟩
  · rintro ⟨f, rfl, hlink, hroot⟩
    exact ⟨hlink.append root, hroot⟩

/-- The opening of a link ends in a place, and there is no other one in it. -/
theorem isTarget_opening_iff {alternative root s : Text} (h : ']' ∉ alternative)
    (hmem : root ∈ roots) {front rest : Text}
    (heq : front ++ rest = opening alternative ++ (root ++ s)) :
    IsTarget front rest ↔
      front = opening alternative ∨ ∃ f, front = opening alternative ++ f ∧ IsTarget f rest := by
  constructor
  · rintro ⟨hlink, hroot⟩
    exact (opensBefore_cases h heq hlink).imp_right fun ⟨f, hf, hlink⟩ => ⟨f, hf, hlink, hroot⟩
  · rintro (rfl | ⟨f, rfl, hlink, hroot⟩)
    · rw [List.append_cancel_left heq]
      exact ⟨⟨alternative, h, List.suffix_refl _⟩, root, hmem, List.prefix_append root s⟩
    · exact ⟨hlink.append _, hroot⟩

/-- **The rewritten line, part by part**: it is cut before the roots of its image links, and goes up
one directory there. -/
theorem exists_cutAt (l : Line) :
    ∃ p parts, Text.CutAt IsTarget l (p :: parts)
      ∧ ProjectPath.fixLine l = Text.joinWith "../".toList (p :: parts) := by
  show ∃ p parts, _ ∧ recogniser.rewrite render l = _
  induction l using recogniser.scan_induction with
  | nil =>
    refine ⟨[], [], Text.cutAt_nil (not_isTarget_nil []), ?_⟩
    rw [Recogniser.rewrite_nil, Text.joinWith, List.intercalate_singleton]
  | plain a s hread ih =>
    obtain ⟨p, parts, hcut, hline⟩ := ih
    refine ⟨a :: p, parts, hcut.append [a] fun front rest => isTarget_cons_iff hread, ?_⟩
    rw [recogniser.rewrite_cons_of_none render hread, hline]
    exact (Text.joinWith_append _ [a] p parts).symm
  | block source b r hread ih =>
    obtain ⟨p, parts, hcut, hline⟩ := ih
    obtain ⟨halternative, hroot, hsource⟩ := read_eq_some_iff.1 hread
    have hne : b.root ++ p ≠ [] := by
      have hroots : ∀ root ∈ roots, root ≠ [] := by decide
      simp [hroots _ hroot]
    have hbehind := hcut.append b.root fun front rest => isTarget_root_iff hroot
    refine ⟨opening b.alternative, (b.root ++ p) :: parts, ?_, ?_⟩
    · rw [hsource]
      exact hbehind.cut hne _ fun front rest => isTarget_opening_iff halternative hroot
    · rw [recogniser.rewrite_of_some render hread, hline, Text.joinWith_cons_cons,
        Text.joinWith_append, render, opening]
      simp

/-! ## What is left -/

/-- Up to its first closing bracket a line is as it was, and what follows the bracket is no root
unless it was one. -/
theorem exists_of_rewrite_eq {s alternative root rest : Text} (halternative : ']' ∉ alternative)
    (hroot : root ∈ roots)
    (h : recogniser.rewrite render s = alternative ++ ("](".toList ++ (root ++ rest))) :
    ∃ r, s = alternative ++ ("](".toList ++ (root ++ r)) := by
  induction s using recogniser.scan_induction generalizing alternative with
  | nil => simp at h
  | plain a s hread ih =>
    rw [recogniser.rewrite_cons_of_none render hread] at h
    cases alternative with
    | nil =>
      obtain ⟨rfl, hrest⟩ := List.cons.inj h
      have havoids : ∀ root ∈ roots, avoidsSpellings ('(' :: root) = true := by decide
      obtain ⟨r, hr⟩ := respells.isPrefix_of_rewrite (havoids root hroot) ⟨rest, hrest.symm⟩
      exact ⟨r, by rw [← hr]; rfl⟩
    | cons c alternative =>
      obtain ⟨rfl, hrest⟩ := List.cons.inj h
      obtain ⟨r, hr⟩ := ih (fun hmem => halternative (List.mem_cons_of_mem _ hmem)) hrest
      exact ⟨r, by rw [hr]; rfl⟩
  | block source b r hread =>
    obtain ⟨hother, -, -⟩ := read_eq_some_iff.1 hread
    rw [recogniser.rewrite_of_some render hread, render, List.append_assoc _ b.root] at h
    exact absurd h
      (raised_ne (List.not_mem_append (by decide) hother) halternative hroot _ rest)

/-- No link begins where a rewritten line begins. -/
theorem read_rewrite (s : Text) : read (recogniser.rewrite render s) = none := by
  cases hread : recogniser.read s with
  | some p =>
    obtain ⟨b, r⟩ := p
    obtain ⟨halternative, -, -⟩ := read_eq_some_iff.1 hread
    rw [recogniser.rewrite_of_some render hread, render, List.append_assoc _ b.root]
    exact read_eq_none_of_raised (List.not_mem_append (by decide) halternative) _
  | none =>
    rw [Option.eq_none_iff_forall_ne_some]
    rintro ⟨b, rest⟩ h
    obtain ⟨halternative, hroot, hs⟩ := read_eq_some_iff.1 h
    rw [opening, List.append_assoc _ "](".toList] at hs
    obtain ⟨r, rfl⟩ :=
      exists_of_rewrite_eq (List.not_mem_append (by decide) halternative) hroot hs
    rw [← List.append_assoc, ← opening] at hread
    exact Option.some_ne_none _ ((read_eq_some_iff.2 ⟨halternative, hroot, rfl⟩).symm.trans hread)

/-- **No link is left in a rewritten line.** -/
theorem read_of_suffix_fixLine {l : Line} : ∀ t, t <:+ ProjectPath.fixLine l → read t = none := by
  refine recogniser.forall_suffix_rewrite rfl (fun a t _ hread => ?_) ?_
  · rw [← recogniser.rewrite_cons_of_none render hread]
    exact read_rewrite (a :: t)
  · intro source b r _ hread z hz hsuffix
    obtain ⟨halternative, hroot, -⟩ := read_eq_some_iff.1 hread
    have hshape : render b = ("![".toList ++ b.alternative) ++ ("](../".toList ++ b.root) := by
      rw [render, List.append_assoc]
    rw [hshape] at hsuffix
    rcases suffix_append_cases hsuffix with hsuffix | ⟨x, -, hx, rfl⟩
    · -- the new spelling behind its alternative text has no exclamation mark
      obtain ⟨c, z, rfl⟩ := List.exists_cons_of_ne_nil hz
      have hmark : ∀ root ∈ roots, '!' ∉ "](../".toList ++ root := by decide
      refine read_cons_of_ne ?_ _
      rintro rfl
      exact hmark _ hroot (hsuffix.subset (List.mem_cons_self ..))
    · have hplain : ']' ∉ x := fun hmem =>
        List.not_mem_append (by decide) halternative (hx.subset hmem)
      have hnone := read_eq_none_of_raised hplain (b.root ++ recogniser.rewrite render r)
      simpa using hnone

/-- Where no link can be read there is no place before a root. -/
theorem not_isTarget_of_read {l : Line} (h : ∀ t, t <:+ l → read t = none) {front rest : Text}
    (heq : front ++ rest = l) : ¬ IsTarget front rest := by
  rintro ⟨⟨alternative, halternative, y, rfl⟩, root, hroot, r, rfl⟩
  have hread : read (opening alternative ++ (root ++ r)) = some (⟨alternative, root⟩, r) :=
    read_eq_some_iff.2 ⟨halternative, hroot, rfl⟩
  have hsuffix : opening alternative ++ (root ++ r) <:+ l :=
    ⟨y, by rw [← heq, List.append_assoc]⟩
  rw [h _ hsuffix] at hread
  cases hread

end ImageLink

/-! ## The whole document -/

namespace ProjectPath

theorem fixLine_fixLine (l : Line) : fixLine (fixLine l) = fixLine l :=
  ImageLink.recogniser.rewrite_eq_self_of_suffix _ ImageLink.read_of_suffix_fixLine

/-- **Image links go up one directory, and nothing else changes.**  Line by line, `../` is put in at
the places that stand between the opening of an image link and the root of a path; such an opening
has no closing bracket in its alternative text.  Without what is put in a line is as it was.  In the
result there is no such place any more, and a second run changes nothing. -/
theorem fixImageLinks_inserts (d : Document) :
    List.Forall₂ (fun old new => ∃ parts, Text.CutAt ImageLink.IsTarget old parts
        ∧ new = Text.joinWith "../".toList parts) d (fixImageLinks d)
      ∧ (∀ l ∈ fixImageLinks d, ∀ front rest, front ++ rest = l → ¬ ImageLink.IsTarget front rest)
      ∧ fixImageLinks (fixImageLinks d) = fixImageLinks d := by
  refine ⟨?_, ?_, ?_⟩
  · rw [fixImageLinks, List.forall₂_map_right_iff, List.forall₂_same]
    intro l _
    obtain ⟨p, parts, hcut, hline⟩ := ImageLink.exists_cutAt l
    exact ⟨p :: parts, hcut, hline⟩
  · intro l hl front rest heq
    obtain ⟨k, -, rfl⟩ := List.mem_map.1 hl
    exact ImageLink.not_isTarget_of_read ImageLink.read_of_suffix_fixLine heq
  · rw [fixImageLinks, fixImageLinks, List.map_map]
    exact List.map_congr_left fun l _ => fixLine_fixLine l

/-- An opening inside of an alternative text is none of its own, and a link to a page is left. -/
example : fixLine "![a ![b](images/x.png) [c](data/y) ![](data/z.png)".toList
    = "![a ![b](../images/x.png) [c](data/y) ![](../data/z.png)".toList := by
  decide +kernel

end ProjectPath
end SlideDeck
