import SlideDeck.Proofs.Code.SeparateCalls
import Mathlib.Data.List.Infix

/-!
# Parentheses of respelled code

A new spelling has a parenthesis more than the old one, opened in one place and closed in another,
and what it keeps of the old one may have parentheses of its own.  Still no line gets out of
balance: whatever is not respelled has as many open parentheses around it as before.

* `Text.depth` counts the parentheses that a text leaves open, `Text.Balanced` is a text that
  closes what it opens and nothing else.
* `Text.KeepsDepth` — a new spelling closes no more than the old one did at its lowest point, and as
  much in the end; it is closed under appending (`KeepsDepth.append`) and under putting a pair of
  parentheses around (`KeepsDepth.wrap`).
* `PathCall.keepsDepth`, `ReadCall.keepsDepth` and `SourceCall.keepsDepth` — the three kinds of
  calls.
* `Recogniser.RewritesAtDepth` — spans are replaced, and everything else stays at its depth.
* `ProjectPath.depth_kept` — the three passes, and the whole line.
-/

set_option autoImplicit false

namespace SlideDeck

namespace Text

/-! ## Depth -/

/-- How many parentheses a text leaves open; negative if it closes more than it opens. -/
def depth (s : Text) : Int := (s.count '(' : Int) - s.count ')'

/-- A text that closes each parenthesis it opens, and none that it has not opened. -/
structure Balanced (s : Text) : Prop where
  nonneg : ∀ t, t <+: s → 0 ≤ depth t
  closed : depth s = 0

theorem balanced_iff (s : Text) : Balanced s ↔ (∀ t ∈ s.inits, 0 ≤ depth t) ∧ depth s = 0 := by
  constructor
  · exact fun h => ⟨fun t ht => h.nonneg t ((List.mem_inits t s).1 ht), h.closed⟩
  · exact fun h => ⟨fun t ht => h.1 t ((List.mem_inits t s).2 ht), h.2⟩

instance (s : Text) : Decidable (Balanced s) := decidable_of_iff' _ (balanced_iff s)

@[simp] theorem depth_nil : depth [] = 0 := rfl

@[simp] theorem depth_append (s t : Text) : depth (s ++ t) = depth s + depth t := by
  simp only [depth, List.count_append]
  omega

@[simp] theorem depth_open : depth ['('] = 1 := rfl

@[simp] theorem depth_close : depth [')'] = -1 := rfl

theorem depth_cons (c : Char) (s : Text) : depth (c :: s) = depth [c] + depth s :=
  depth_append [c] s

theorem depth_eq_zero {s : Text} (hopen : '(' ∉ s) (hclose : ')' ∉ s) : depth s = 0 := by
  rw [depth, List.count_eq_zero_of_not_mem hopen, List.count_eq_zero_of_not_mem hclose]
  rfl

/-! ## Spellings at the same depth -/

/-- A new spelling leaves as many parentheses open as the old one, and on the way it closes no more
of those around it than the old one did. -/
structure KeepsDepth (old new : Text) : Prop where
  depth_eq : depth new = depth old
  floor : ∀ t, t <+: new → ∃ u, u <+: old ∧ depth u ≤ depth t

theorem KeepsDepth.refl (s : Text) : KeepsDepth s s :=
  ⟨rfl, fun t ht => ⟨t, ht, Int.le_refl _⟩⟩

theorem KeepsDepth.trans {r s t : Text} (h : KeepsDepth r s) (h' : KeepsDepth s t) :
    KeepsDepth r t where
  depth_eq := h'.depth_eq.trans h.depth_eq
  floor u hu := by
    obtain ⟨v, hv, hle⟩ := h'.floor u hu
    obtain ⟨w, hw, hle'⟩ := h.floor v hv
    exact ⟨w, hw, Int.le_trans hle' hle⟩

theorem KeepsDepth.append {s s' t t' : Text} (h : KeepsDepth s s') (h' : KeepsDepth t t') :
    KeepsDepth (s ++ t) (s' ++ t') where
  depth_eq := by rw [depth_append, depth_append, h.depth_eq, h'.depth_eq]
  floor u hu := by
    rcases prefix_append_cases hu with hu | ⟨r, hr, rfl⟩
    · obtain ⟨v, hv, hle⟩ := h.floor u hu
      exact ⟨v, hv.trans (List.prefix_append s t), hle⟩
    · obtain ⟨v, hv, hle⟩ := h'.floor r hr
      refine ⟨s ++ v, (List.prefix_append_right_inj s).2 hv, ?_⟩
      rw [depth_append, depth_append, h.depth_eq]
      omega

/-- Texts without parentheses may stand for each other. -/
theorem KeepsDepth.of_not_mem {s t : Text} (hs : depth s = 0) (ht : '(' ∉ t ∧ ')' ∉ t) :
    KeepsDepth s t where
  depth_eq := by rw [hs, depth_eq_zero ht.1 ht.2]
  floor u hu := by
    have hu0 := depth_eq_zero (fun h => ht.1 (hu.subset h)) (fun h => ht.2 (hu.subset h))
    exact ⟨[], List.nil_prefix, Int.le_of_eq (depth_nil.trans hu0.symm)⟩

/-- A pair of parentheses may be put around a spelling: what is in them is one level deeper. -/
theorem KeepsDepth.wrap {s t : Text} (h : KeepsDepth s t) : KeepsDepth s ('(' :: (t ++ [')'])) where
  depth_eq := by
    rw [depth_cons, depth_append, depth_open, depth_close, h.depth_eq]
    omega
  floor u hu := by
    rcases List.prefix_cons_iff.1 hu with rfl | ⟨v, rfl, hv⟩
    · exact ⟨[], List.nil_prefix, Int.le_refl _⟩
    · rcases List.prefix_concat_iff.1 hv with rfl | hv
      · refine ⟨s, List.prefix_refl s, ?_⟩
        rw [depth_cons, depth_append, depth_open, depth_close, h.depth_eq]
        omega
      · obtain ⟨w, hw, hle⟩ := h.floor v hv
        refine ⟨w, hw, ?_⟩
        rw [depth_cons, depth_open]
        omega

/-- **A balanced text is turned into a balanced one** by a spelling at the same depth. -/
theorem KeepsDepth.balanced {s t : Text} (h : KeepsDepth s t) (hs : Balanced s) : Balanced t where
  nonneg u hu := by
    obtain ⟨v, hv, hle⟩ := h.floor u hu
    exact Int.le_trans (hs.nonneg v hv) hle
  closed := h.depth_eq.trans hs.closed

end Text

open Text (isQuote depth Balanced KeepsDepth)

/-! ## The three kinds of calls -/

theorem Text.depth_quote {q : Char} (hq : isQuote q = true) : depth [q] = 0 := by
  rcases (isQuote_iff q).1 hq with rfl | rfl <;> rfl

theorem Text.depth_of_isBlank {s : Text} (hs : isBlank s = true) : depth s = 0 := by
  have hspace := (isBlank_iff s).1 hs
  refine depth_eq_zero (fun h => ?_) fun h => ?_
  · exact absurd (hspace _ h) (by decide)
  · exact absurd (hspace _ h) (by decide)

theorem PathCall.keepsDepth {old r : Text} {b : PathCall} (h : read (old ++ r) = some (b, r)) :
    KeepsDepth old (render b) := by
  obtain ⟨-, hold⟩ := read_eq_some_iff.1 h
  obtain rfl := List.append_cancel_right hold
  have hname : KeepsDepth "file.path(".toList "here::here(".toList :=
    (KeepsDepth.of_not_mem (s := "file.path".toList) (t := "here::here".toList) (by decide)
      (by decide)).append (.refl ['('])
  unfold text render
  exact (hname.append (.refl b.arguments)).append (.refl [')'])

theorem ReadCall.keepsDepth {old r : Text} {b : ReadCall} (h : read (old ++ r) = some (b, r)) :
    KeepsDepth old (render b) := by
  obtain ⟨hb, blank, hblank, hold⟩ := read_eq_some_iff.1 h
  obtain rfl := List.append_cancel_right hold
  -- the first argument with the white space and the mark in front of it, piece by piece
  have hfront : KeepsDepth (blank ++ [b.literal.opening]) ['"'] := by
    refine .of_not_mem ?_ (by decide)
    rw [Text.depth_append, Text.depth_of_isBlank hblank, Text.depth_quote hb.literal.opening]
    rfl
  have hslash : KeepsDepth ['/'] "\", \"".toList := .of_not_mem rfl (by decide)
  have hend : KeepsDepth [b.literal.closing] ['"'] :=
    .of_not_mem (Text.depth_quote hb.literal.closing) (by decide)
  have hargument := (((hfront.append (.refl b.literal.root)).append hslash).append
    (.refl b.literal.path)).append hend
  have hhere : KeepsDepth [] "here::here".toList := .of_not_mem rfl (by decide)
  have hcall := ((KeepsDepth.refl (b.function ++ ['('])).append hhere).append hargument.wrap
  unfold text render PathLiteral.text
  simpa using hcall

theorem SourceCall.keepsDepth {old r : Text} {b : SourceCall} (h : read (old ++ r) = some (b, r)) :
    KeepsDepth old (render b) := by
  obtain ⟨-, hold⟩ := read_eq_some_iff.1 h
  obtain rfl := List.append_cancel_right hold
  have hhere : KeepsDepth [] "here::here".toList := .of_not_mem rfl (by decide)
  have hcall := ((KeepsDepth.refl "source(".toList).append hhere).append
    (KeepsDepth.refl b.literal.text).wrap
  unfold text render
  simpa using hcall

/-! ## The whole line -/

namespace Recogniser

variable {β : Type}

/-- A rewriting replaces spans of a line, one after the other, and every other character stays, in
order and with as many open parentheses in front of it as before. -/
structure RewritesAtDepth (rec : Recogniser Char β) (render : β → Text) (s : Text) : Prop where
  /-- The pieces are the line, part by part. -/
  source : (rec.pieces s).flatMap Piece.source = s
  /-- A plain piece is a character that is written again; a block is a span that is replaced. -/
  written : rec.rewrite render s = (rec.pieces s).flatMap (Piece.render render)
  plain : ∀ (before after : List (Piece Char β)) (c : Char),
    rec.pieces s = before ++ .plain c :: after →
      depth (before.flatMap (Piece.render render)) = depth (before.flatMap Piece.source)

variable {rec : Recogniser Char β} {render : β → Text}

theorem keepsDepth_of_mem_pieces
    (hblock : ∀ {old r : Text} {b : β}, rec.read (old ++ r) = some (b, r) →
      KeepsDepth old (render b)) {s : Text} :
    ∀ p ∈ rec.pieces s, KeepsDepth p.source (p.render render) := by
  induction s using rec.scan_induction with
  | nil => simp
  | plain a s h ih =>
    rw [rec.pieces_cons_of_none h]
    exact List.forall_mem_cons.2 ⟨.refl [a], ih⟩
  | block old b r h ih =>
    rw [rec.pieces_append_of_some h]
    exact List.forall_mem_cons.2 ⟨hblock h, ih⟩

theorem keepsDepth_flatMap {pieces : List (Piece Char β)}
    (h : ∀ p ∈ pieces, KeepsDepth p.source (p.render render)) :
    KeepsDepth (pieces.flatMap Piece.source) (pieces.flatMap (Piece.render render)) := by
  induction pieces with
  | nil => exact .refl []
  | cons p pieces ih =>
    obtain ⟨hp, hpieces⟩ := List.forall_mem_cons.1 h
    exact hp.append (ih hpieces)

theorem rewritesAtDepth
    (hblock : ∀ {old r : Text} {b : β}, rec.read (old ++ r) = some (b, r) →
      KeepsDepth old (render b)) (s : Text) : rec.RewritesAtDepth render s where
  source := rec.pieces_source s
  written := rfl
  plain before after c h := by
    have hpieces := keepsDepth_of_mem_pieces hblock (s := s)
    rw [h] at hpieces
    exact (keepsDepth_flatMap fun p hp => hpieces p (List.mem_append_left _ hp)).depth_eq

theorem keepsDepth_rewrite
    (hblock : ∀ {old r : Text} {b : β}, rec.read (old ++ r) = some (b, r) →
      KeepsDepth old (render b)) (s : Text) : KeepsDepth s (rec.rewrite render s) := by
  have h := keepsDepth_flatMap (keepsDepth_of_mem_pieces hblock (s := s))
  rwa [rec.pieces_source] at h

end Recogniser

namespace ProjectPath

theorem keepsDepth_rewriteLine (l : Line) : KeepsDepth l (rewriteLine l) :=
  ((Recogniser.keepsDepth_rewrite PathCall.keepsDepth l).trans
    (Recogniser.keepsDepth_rewrite ReadCall.keepsDepth _)).trans
    (Recogniser.keepsDepth_rewrite SourceCall.keepsDepth _)

/-- **Respelling keeps parentheses in balance.**  Each of the three passes replaces spans of a line
and leaves every other character where it was, at the depth where it was.  So all three together
leave as many parentheses open as there were, and turn a balanced line into a balanced one. -/
theorem depth_kept :
    (∀ l, PathCall.recogniser.RewritesAtDepth PathCall.render l)
      ∧ (∀ l, ReadCall.recogniser.RewritesAtDepth ReadCall.render l)
      ∧ (∀ l, SourceCall.recogniser.RewritesAtDepth SourceCall.render l)
      ∧ ∀ l, depth (rewriteLine l) = depth l ∧ (Balanced l → Balanced (rewriteLine l)) :=
  ⟨Recogniser.rewritesAtDepth PathCall.keepsDepth, Recogniser.rewritesAtDepth ReadCall.keepsDepth,
    Recogniser.rewritesAtDepth SourceCall.keepsDepth, fun l =>
      ⟨(keepsDepth_rewriteLine l).depth_eq, (keepsDepth_rewriteLine l).balanced⟩⟩

/-- A line that is balanced through a parenthesis in the name of a file. -/
theorem depth_kept_parenthesis_in_name :
    Balanced "read_csv(\"data/a).csv\"\n".toList
      ∧ rewriteLine "read_csv(\"data/a).csv\"\n".toList
        = "read_csv(here::here(\"data\", \"a).csv\")\n".toList
      ∧ Balanced (rewriteLine "read_csv(\"data/a).csv\"\n".toList) := by
  have hline : Balanced "read_csv(\"data/a).csv\"\n".toList := by decide
  exact ⟨hline, by decide +kernel, (depth_kept.2.2.2 _).2 hline⟩

end ProjectPath
end SlideDeck
