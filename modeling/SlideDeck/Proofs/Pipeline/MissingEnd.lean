import SlideDeck.Pipeline
import SlideDeck.Proofs.Document.OpenBlock
import SlideDeck.Proofs.Text.Segments
import Mathlib.Logic.Basic

/-!
# A missing end means an end at the end of the document

Columns, image chunks, calls that set chunk options and footnotes have an end of their own.
Without it they run to the end of the document, with a warning.  That is the same as writing the
end there: what is converted is the same, and the warning is gone.

* `Layout.closedBy`, `Figure.closedBy`, `SetupCode.closedBy` and `Footnote.closedBy` — each of the
  four is closed by its end.
* `Layout.length_warnings_events` and its three siblings — the warnings count the ends that are
  missing.
* `BlockKind.missing_end` — the statement about stages.
-/

set_option autoImplicit false

namespace SlideDeck

/-! ## Warnings -/

/-- The warnings among events. -/
def Event.warnings (es : List Event) : List Event := es.filter fun e => e.level = .warn

namespace Event

@[simp] theorem warnings_nil : warnings [] = [] := rfl

@[simp] theorem warnings_append (es fs : List Event) :
    warnings (es ++ fs) = warnings es ++ warnings fs :=
  List.filter_append ..

end Event

/-- Warnings that are told block by block are counted block by block. -/
theorem Recogniser.length_warnings {α β : Type} (rec : Recogniser α β) {lacks : β → Nat}
    {tell : Nat × List α × β → List Event}
    (h : ∀ n source b, (Event.warnings (tell (n, source, b))).length = lacks b) (s : List α) :
    (Event.warnings ((rec.blocks s).flatMap tell)).length = rec.missing lacks s := by
  rw [missing, found]
  induction rec.blocks s with
  | nil => simp
  | cons block blocks ih =>
    obtain ⟨n, source, b⟩ := block
    simp [h, ih]

/-! ## Columns -/

namespace Layout

/-- How many closing brackets a layout lacks. -/
def lacks : Layout → Nat
  | pair left _ right => lacksEnd left.closed + lacksEnd right.closed
  | loneLeft left => lacksEnd left.closed
  | loneRight right => lacksEnd right.closed

theorem length_warnings_unclosedEvents (side : Side) (n : Nat) (c : Column) :
    (Event.warnings (unclosedEvents side n c)).length = lacksEnd c.closed := by
  rw [unclosedEvents]
  cases c.closed <;> rfl

theorem length_warnings_events (d : Document) :
    (Event.warnings (events d)).length = recogniser.missing lacks d := by
  refine recogniser.length_warnings (fun n source b => ?_) d
  cases b with
  | pair left gap right =>
    have hpaired : ∀ m, Event.warnings [.columnsPaired m] = [] := fun _ => rfl
    simp [layoutEvents, lacks, length_warnings_unclosedEvents, hpaired]
  | loneLeft left => exact length_warnings_unclosedEvents .left n left
  | loneRight right => exact length_warnings_unclosedEvents .right n right

/-- A bracket after a closed left column is no gap and opens no right column. -/
theorem closedWith_readAfterLeft {t : Line} (hclose : isClose t = true) (hgap : isGap t = false)
    (hright : isRight t = false) {left : Column} (hleft : left.closed = true) (d : Document) :
    Recogniser.ClosedWith render lacks t (some (readAfterLeft left d))
      (some (readAfterLeft left (d ++ [t]))) := by
  have hlone : lacks (loneLeft left) = 0 := by simp [lacks, hleft]
  obtain ⟨gap, back, rfl, hgaps, hback⟩ := exists_gap d
  cases back with
  | nil =>
    have hbehind := readAfterLeft_gap_append left [t] hgaps (by simpa using hgap)
    rw [List.append_nil, hbehind, ← List.append_nil gap,
      readAfterLeft_gap_append left _ hgaps hback]
    left
    simp [readBehindGap, hlone, hright]
  | cons l rest =>
    have hbehind := readAfterLeft_gap_append left (l :: (rest ++ [t])) hgaps
      (by simpa using hback)
    rw [List.append_assoc, List.cons_append, hbehind, readAfterLeft_gap_append left _ hgaps hback,
      readBehindGap, readBehindGap]
    cases hl : isRight l with
    | true =>
      refine Body.closedWith hclose (fun body => some (pair left gap.length body.toColumn))
        (fun _ _ => rfl) (fun body b hb => ?_) (fun _ => rfl) rest
      rw [← Option.some.inj hb]
      simp [lacks, hleft, Body.toColumn]
    | false => exact Or.inl ⟨hlone, rfl⟩

/-- A left column without end leaves nothing to be paired with. -/
theorem closedWith_left {t : Line} (hclose : isClose t = true) (hgap : isGap t = false)
    (hright : isRight t = false) (d : Document) :
    Recogniser.ClosedWith render lacks t
      (some (readAfterLeft (Body.read isClose d).toColumn (Body.read isClose d).rest))
      (some (readAfterLeft (Body.read isClose (d ++ [t])).toColumn
        (Body.read isClose (d ++ [t])).rest)) := by
  cases hclosed : (Body.read isClose d).closed with
  | true =>
    have hleft : (Body.read isClose d).toColumn.closed = true := hclosed
    rw [Body.read_append_of_closed hclosed]
    exact closedWith_readAfterLeft hclose hgap hright hleft _
  | false =>
    rw [Body.read_of_open hclosed, Body.read_concat_of_open hclosed hclose]
    exact Or.inr ⟨rfl, rfl, _, rfl, rfl, rfl⟩

/-- A bracket closes the column that is open. -/
theorem closedBy {t : Line} (hclose : isClose t = true) (hgap : isGap t = false)
    (hleft : isLeft t = false) (hright : isRight t = false) :
    recogniser.ClosedBy render lacks t where
  read_singleton := read_of_not_opener hleft hright []
  read_concat := by
    intro l d
    change Recogniser.ClosedWith render lacks t (read (l :: d)) (read (l :: (d ++ [t])))
    rw [read, read]
    split
    · exact closedWith_left hclose hgap hright d
    · split
      · exact Body.closedWith hclose (fun body => some (loneRight body.toColumn))
          (fun _ _ => rfl) (fun body b hb => by rw [← Option.some.inj hb]; rfl) (fun _ => rfl) d
      · rfl

end Layout

/-! ## Image chunks -/

namespace Figure

/-- Whether an image chunk lacks its closing fence. -/
def lacks (b : ImageChunk) : Nat := lacksEnd b.closed

theorem length_warnings_events (d : Document) :
    (Event.warnings (events d)).length = recogniser.missing lacks d := by
  refine recogniser.length_warnings (fun n source b => ?_) d
  cases hclosed : b.closed <;> simp [lacks, hclosed, Event.warnings, Event.level]

theorem closed_of_ofChunk {options : Text} {body : Body} {b : ImageChunk}
    (h : ofChunk? options body = some b) : b.closed = body.closed := by
  simp only [ofChunk?, Option.bind_eq_bind, Option.bind_eq_some_iff] at h
  obtain ⟨call, -, argument, -, h⟩ := h
  rw [← Option.some.inj h]

/-- The link that an image chunk becomes does not hang on its closing fence. -/
theorem map_render_ofChunk (options : Text) (lines : Document) (t : Line) :
    (ofChunk? options ⟨lines, some t, []⟩).map render
      = (ofChunk? options ⟨lines, none, []⟩).map render := by
  simp only [ofChunk?]
  cases lines.find? fun l => Text.contains l graphicsCall with
  | none => rfl
  | some call => cases hargument : argument? (Text.trim call) <;> simp [hargument, render]

/-- A fence closes the image chunk that is open. -/
theorem closedBy {t : Line} (hfence : isFence t = true)
    (hchunk : Text.startsWith t "```\x7br".toList = false) :
    recogniser.ClosedBy render lacks t where
  read_singleton := read_of_not_chunk hchunk []
  read_concat := by
    intro l d
    change Recogniser.ClosedWith render lacks t (read (l :: d)) (read (l :: (d ++ [t])))
    rw [read, read]
    cases chunkOptions? l with
    | none => rfl
    | some options =>
      exact Body.closedWith hfence (ofChunk? options) (fun _ _ => rfl)
        (fun body b hb => congrArg lacksEnd (closed_of_ofChunk hb))
        (fun lines => map_render_ofChunk options lines t) d

end Figure

/-! ## Setup code -/

namespace SetupCode

/-- Whether a piece of setup code lacks its closing parenthesis. -/
def lacks : SetupCode → Nat
  | cropHook => 0
  | optionsCall closed => lacksEnd closed

theorem length_warnings_events (d : Document) :
    (Event.warnings (events d)).length = recogniser.missing lacks d := by
  refine recogniser.length_warnings (fun n source b => ?_) d
  cases b with
  | cropHook => rfl
  | optionsCall closed => cases closed <;> rfl

/-- A parenthesis closes the call that is open. -/
theorem closedBy {t : Line} (hclose : isCloseParen t = true) (hcall : startsOptionsCall t = false)
    (hhook : setsCropHook t = false) : recogniser.ClosedBy (fun _ => []) lacks t where
  read_singleton := read_of_not_setup hcall hhook []
  read_concat := by
    intro l d
    change Recogniser.ClosedWith _ lacks t (read (l :: d)) (read (l :: (d ++ [t])))
    rw [read, read]
    split
    · exact Or.inl ⟨rfl, rfl⟩
    · split
      · exact Body.closedWith hclose (fun body => some (optionsCall body.closed))
          (fun _ _ => rfl) (fun body b hb => by rw [← Option.some.inj hb]; rfl) (fun _ => rfl) d
      · rfl

end SetupCode

/-! ## Footnotes -/

namespace Footnote

/-- Whether a footnote lacks its closing bracket. -/
def lacks (b : Footnote) : Nat := lacksEnd b.closed

theorem length_warnings_events (d : Document) :
    (Event.warnings (events d)).length = recogniser.missing lacks d := by
  refine recogniser.length_warnings (fun n source b => ?_) d
  cases hclosed : b.closed <;> simp [lacks, hclosed, Event.warnings, Event.level]

/-- An empty last part of a footnote is trimmed away. -/
theorem trim_blockContent_closing {first : Text} (lines : Document) {t : Line}
    (ht : Text.trimEnd (dropBracket t) = []) :
    Text.trim (blockContent first ⟨lines, some t, []⟩)
      = Text.trim (blockContent first ⟨lines, none, []⟩) := by
  have hne : Text.trimEnd first :: lines.map Text.trimEnd ≠ [] := List.cons_ne_nil _ _
  have hjoin : blockContent first ⟨lines, some t, []⟩
      = blockContent first ⟨lines, none, []⟩ ++ ['\n'] := by
    have hlast := Text.joinWith_concat ['\n'] [] hne
    simpa [blockContent, ht] using hlast
  rw [hjoin, Text.trim_append_right _ (by decide)]

/-- A bracket on a line of its own closes the footnote that is open. -/
theorem closedBy {t : Line} (hends : endsBlock t = true)
    (hopens : t.opensWith ".footnote[".toList = false)
    (ht : Text.trimEnd (dropBracket t) = []) : recogniser.ClosedBy render lacks t where
  read_singleton := read_of_not_opening hopens []
  read_concat := by
    intro l d
    change Recogniser.ClosedWith render lacks t (read (l :: d)) (read (l :: (d ++ [t])))
    rw [read, read]
    cases opening? l with
    | none => rfl
    | some first =>
      dsimp only
      split
      · exact Or.inl ⟨rfl, rfl⟩
      · let make : Body → Option Footnote := fun body =>
          some ⟨Text.trim (blockContent first body), body.closed⟩
        refine Body.closedWith hends make (fun _ _ => rfl)
          (fun body b hb => by rw [← Option.some.inj hb]; rfl) (fun lines => ?_) d
        simp [make, render, trim_blockContent_closing lines ht]

end Footnote

/-! ## The four stages -/

/-- The blocks that have an end of their own. -/
inductive BlockKind where
  | column
  | imageChunk
  | optionsCall
  | footnote
  deriving DecidableEq, Repr

namespace BlockKind

/-- The stage that reads the blocks of a kind. -/
def stage : BlockKind → Stage
  | column => .columns
  | imageChunk => .imageChunks
  | optionsCall => .setupChunks
  | footnote => .footnotes

/-- The line that ends a block of a kind. -/
def terminator : BlockKind → Line
  | column => "]\n".toList
  | imageChunk => "```\n".toList
  | optionsCall => ")\n".toList
  | footnote => "]\n".toList

/-- The warnings that the stage of a kind gives on a document. -/
def warnings (kind : BlockKind) (config : Config) (d : Document) : List Event :=
  Event.warnings (kind.stage.events config d)

/-- A stage that rewrites blocks, and warns of those that lack their end, does one of two things
with an end at the end of the document. -/
theorem xor_of_closedBy {β : Type} {kind : BlockKind} {config : Config} {rec : Recogniser Line β}
    {render : β → Document} {lacks : β → Nat} (h : rec.ClosedBy render lacks kind.terminator)
    (happly : ∀ d, kind.stage.apply config d = rec.rewrite render d)
    (hwarn : ∀ d, (kind.warnings config d).length = rec.missing lacks d) (d : Document) :
    Xor
      ((kind.warnings config d).length = 1
        ∧ kind.stage.apply config (d ++ [kind.terminator]) = kind.stage.apply config d
        ∧ kind.warnings config (d ++ [kind.terminator]) = [])
      (kind.warnings config d = []
        ∧ kind.stage.apply config (d ++ [kind.terminator])
          = kind.stage.apply config d ++ [kind.terminator]) := by
  have hnone : ∀ e, kind.warnings config e = [] ↔ rec.missing lacks e = 0 := by
    intro e
    rw [← hwarn, List.length_eq_zero_iff]
  simp only [happly, hwarn, hnone]
  rcases h.rewrite_concat d with ⟨hone, hsame, hgone⟩ | ⟨hnone, -, hpassed⟩
  · left
    refine ⟨⟨hone, hsame, hgone⟩, fun hother => ?_⟩
    rw [hone] at hother
    exact absurd hother.1 (by decide)
  · right
    refine ⟨⟨hnone, hpassed⟩, fun hother => ?_⟩
    rw [hnone] at hother
    exact absurd hother.1 (by decide)

/-- **A missing end means an end at the end of the document, and a warning.**  On every document a
stage that reads blocks with an end of their own does one of two things.  It warns once, and with
the end written there it returns the same without warning; or it does not warn, and passes that
line on. -/
theorem missing_end (kind : BlockKind) (config : Config) (d : Document) :
    Xor
      ((kind.warnings config d).length = 1
        ∧ kind.stage.apply config (d ++ [kind.terminator]) = kind.stage.apply config d
        ∧ kind.warnings config (d ++ [kind.terminator]) = [])
      (kind.warnings config d = []
        ∧ kind.stage.apply config (d ++ [kind.terminator])
          = kind.stage.apply config d ++ [kind.terminator]) := by
  cases kind with
  | column =>
    have h : Layout.recogniser.ClosedBy Layout.render Layout.lacks "]\n".toList :=
      Layout.closedBy (by decide) (by decide) (by decide) (by decide)
    refine xor_of_closedBy h (fun _ => rfl) (fun e => ?_) d
    exact Layout.length_warnings_events e
  | imageChunk =>
    have h : Figure.recogniser.ClosedBy Figure.render Figure.lacks "```\n".toList :=
      Figure.closedBy (by decide) (by decide)
    refine xor_of_closedBy h (fun _ => rfl) (fun e => ?_) d
    exact Figure.length_warnings_events e
  | optionsCall =>
    have h : SetupCode.recogniser.ClosedBy (fun _ => []) SetupCode.lacks ")\n".toList :=
      SetupCode.closedBy (by decide) (by decide) (by decide)
    refine xor_of_closedBy h (fun _ => rfl) (fun e => ?_) d
    exact SetupCode.length_warnings_events e
  | footnote =>
    have h : Footnote.recogniser.ClosedBy Footnote.render Footnote.lacks "]\n".toList :=
      Footnote.closedBy (by decide) (by decide) (by decide)
    refine xor_of_closedBy h (fun _ => rfl) (fun e => ?_) d
    exact Footnote.length_warnings_events e

end BlockKind
end SlideDeck
