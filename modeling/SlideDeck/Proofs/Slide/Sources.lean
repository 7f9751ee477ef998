import SlideDeck.Code.Figure
import SlideDeck.Code.SetupCode
import SlideDeck.Proofs.Text.Trim
import SlideDeck.Slide.Footnote
import SlideDeck.Slide.Layout
import SlideDeck.Slide.Notes

/-!
# The lines that a block is read from

Each reader of blocks takes some front part of the document.  Here is what that part looks like,
line by line, so that statements on documents need not go back to the readers.

* `Notes.read_eq_some` — a marker and lines up to a separator.
* `Layout.Form` — the four forms of a layout; `Layout.form_of_read` says that a layout is read from
  one of them, and `Layout.Ends` what may follow it: a left block without partner stands before a
  line that it has looked at in vain.
* `Footnote.Source` — a footnote on one line, or on several.
* `Figure.Source` — an image chunk up to the next fence.
* `Notes.read_of_not_marker`, `Layout.read_of_not_opener` and their siblings — where nothing is
  read.
-/

set_option autoImplicit false

namespace SlideDeck

namespace Body

theorem isEnd_of_closing {isEnd : Line → Bool} {d : Document} {l : Line}
    (h : l ∈ (read isEnd d).closing) : isEnd l = true :=
  List.find?_some h

theorem not_isEnd_of_mem {isEnd : Line → Bool} {d : Document} {l : Line}
    (h : l ∈ (read isEnd d).lines) : isEnd l = false := by
  have hl := List.mem_takeWhile_imp h
  rwa [Bool.not_eq_true'] at hl

/-- A body up to a line that is known to be its end. -/
theorem read_append_cons {isEnd : Line → Bool} {lines : Document} {l : Line}
    (hlines : ∀ m ∈ lines, isEnd m = false) (hl : isEnd l = true) (rest : Document) :
    read isEnd (lines ++ l :: rest) = ⟨lines, some l, rest⟩ :=
  (read_eq_closed_iff isEnd _ lines rest l).2 ⟨rfl, hl, hlines⟩

/-- A line that ends a body in a document is there to be found. -/
theorem exists_read_closed {isEnd : Line → Bool} {d : Document} (h : ∃ l ∈ d, isEnd l = true) :
    ∃ lines l rest, d = lines ++ l :: rest ∧ isEnd l = true ∧ ∀ m ∈ lines, isEnd m = false := by
  obtain ⟨l, hl⟩ := Option.isSome_iff_exists.1 (List.find?_isSome.2 h)
  exact ⟨_, l, _, (read_eq_closed_iff isEnd d _ _ l).1 (by rw [read, hl])⟩

theorem not_isEnd_of_open {isEnd : Line → Bool} {d : Document}
    (h : (read isEnd d).closed = false) : ∀ l ∈ d, isEnd l = false := by
  intro l hl
  have hnone : d.find? isEnd = none := by simpa [closed, read] using h
  simpa using List.find?_eq_none.1 hnone l hl

/-- A body without end is all there is. -/
theorem read_of_open {isEnd : Line → Bool} {d : Document} (h : (read isEnd d).closed = false) :
    read isEnd d = ⟨d, none, []⟩ := by
  have hall := not_isEnd_of_open h
  have hlines : (read isEnd d).lines = d := List.takeWhile_eq_self_iff.2 (by simpa using hall)
  have hrest : (read isEnd d).rest = [] := by
    have hdrop : (d.dropWhile fun l => !isEnd l) = [] :=
      List.dropWhile_eq_nil_iff.2 (by simpa using hall)
    simp [read, hdrop]
  have hclosing : (read isEnd d).closing = none := by simpa [closed] using h
  exact (Body.mk.injEq ..).mpr ⟨hlines, hclosing, hrest⟩

/-- The lines of a body with the one that ends it. -/
def source (b : Body) : Document := b.lines ++ b.closing.toList

/-- A body ends where it may end first. -/
structure Delimited (isEnd : Line → Bool) (b : Body) : Prop where
  not_isEnd : ∀ m ∈ b.lines, isEnd m = false
  isEnd_closing : ∀ c ∈ b.closing, isEnd c = true

theorem delimited_read (isEnd : Line → Bool) (d : Document) : (read isEnd d).Delimited isEnd where
  not_isEnd _ := not_isEnd_of_mem
  isEnd_closing _ := isEnd_of_closing

theorem source_append_rest (isEnd : Line → Bool) (d : Document) :
    (read isEnd d).source ++ (read isEnd d).rest = d := by
  rw [source, List.append_assoc, read_append]

/-- A body with an end is read off the front of any document that begins with it. -/
theorem Delimited.read_source_append {isEnd : Line → Bool} {b : Body} (h : b.Delimited isEnd)
    (hb : b.closed = true) (e : Document) : read isEnd (b.source ++ e) = { b with rest := e } := by
  obtain ⟨c, hc⟩ := Option.isSome_iff_exists.1 hb
  have hread := read_append_cons h.not_isEnd (h.isEnd_closing c hc) e
  rw [source, hc, Option.toList_some, List.append_assoc, List.singleton_append, hread, ← hc]

end Body

/-! ## Notes -/

theorem Notes.read_eq_some {s r : Document} {b : Notes} (h : Notes.read s = some (b, r)) :
    ∃ marker, isMarker marker = true ∧ s = marker :: b.lines ++ r := by
  cases s with
  | nil => simp [read] at h
  | cons l d =>
    simp only [read] at h
    split at h
    · next hl =>
      obtain ⟨rfl, rfl⟩ := Prod.mk.inj (Option.some.inj h)
      refine ⟨l, hl, ?_⟩
      rw [List.cons_append, List.takeWhile_append_dropWhile]
    · simp at h

/-! ## Two-column layouts -/

namespace Layout

/-- The lines of a layout as it is read.  A left column without its bracket takes the rest of the
document; with it, the gap behind it belongs to the layout, whether a right block follows or
not. -/
inductive Form : Document → Layout → Prop
  | pair {l c r : Line} {left gap : Document} {right : Body} (hl : isLeft l = true)
      (hleft : ∀ m ∈ left, isClose m = false) (hc : isClose c = true)
      (hgap : ∀ g ∈ gap, isGap g = true) (hr : isRight r = true)
      (hright : right.Delimited isClose) :
      Form (l :: (left ++ c :: (gap ++ r :: right.source)))
        (.pair ⟨left, true⟩ gap.length right.toColumn)
  | loneLeft {l c : Line} {left gap : Document} (hl : isLeft l = true)
      (hleft : ∀ m ∈ left, isClose m = false) (hc : isClose c = true)
      (hgap : ∀ g ∈ gap, isGap g = true) :
      Form (l :: (left ++ c :: gap)) (.loneLeft ⟨left, true⟩)
  | openLeft {l : Line} {left : Document} (hl : isLeft l = true)
      (hleft : ∀ m ∈ left, isClose m = false) : Form (l :: left) (.loneLeft ⟨left, false⟩)
  | loneRight {r : Line} {right : Body} (hr : isRight r = true)
      (hright : right.Delimited isClose) : Form (r :: right.source) (.loneRight right.toColumn)

/-- Whether a layout can stand before `e` as it is: a left block would go on through a gap, and
with a right block it would be a pair. -/
def Ends : Layout → Document → Prop
  | .loneLeft _, e => ∀ l ∈ e.head?, isGap l = false ∧ isRight l = false
  | .pair _ _ _, _ | .loneRight _, _ => True

theorem exists_gap (d : Document) : ∃ gap back : Document, d = gap ++ back
    ∧ (∀ g ∈ gap, isGap g = true) ∧ ∀ l ∈ back.head?, isGap l = false := by
  refine ⟨d.takeWhile isGap, d.dropWhile isGap, List.takeWhile_append_dropWhile.symm,
    fun g hg => List.mem_takeWhile_imp hg, fun l hl => ?_⟩
  have hhead := List.head?_dropWhile_not isGap d
  rw [hl] at hhead
  simpa using hhead

/-- What is read behind a left column and a gap: the first line tells. -/
def readBehindGap (left : Column) (gap : Nat) : Document → Layout × Document
  | [] => (loneLeft left, [])
  | l :: rest =>
    if isRight l then
      (pair left gap (Body.read isClose rest).toColumn, (Body.read isClose rest).rest)
    else (loneLeft left, l :: rest)

theorem readAfterLeft_gap_append (left : Column) {gap : Document} (back : Document)
    (hgap : ∀ g ∈ gap, isGap g = true) (hback : ∀ l ∈ back.head?, isGap l = false) :
    readAfterLeft left (gap ++ back) = readBehindGap left gap.length back := by
  obtain ⟨htake, hdrop⟩ := takeWhile_dropWhile_append hgap hback
  rw [readAfterLeft, hdrop, htake]
  cases back <;> rfl

/-- What is read from a left block with its bracket on. -/
theorem form_of_readAfterLeft {l c : Line} {left rest r : Document} {b : Layout}
    (hl : isLeft l = true) (hleft : ∀ m ∈ left, isClose m = false) (hc : isClose c = true)
    (h : readAfterLeft ⟨left, true⟩ rest = (b, r)) :
    ∃ front, l :: (left ++ c :: rest) = front ++ r ∧ Form front b ∧ b.Ends r := by
  obtain ⟨gap, back, rfl, hgap, hback⟩ := exists_gap rest
  rw [readAfterLeft_gap_append _ back hgap hback] at h
  cases back with
  | nil =>
    obtain ⟨rfl, rfl⟩ := Prod.mk.inj h
    exact ⟨_, by simp, .loneLeft hl hleft hc hgap, fun l hl => absurd hl (by simp)⟩
  | cons m back =>
    rw [readBehindGap] at h
    split at h
    · next hm =>
      obtain ⟨rfl, rfl⟩ := Prod.mk.inj h
      refine ⟨_, ?_, .pair hl hleft hc hgap hm (Body.delimited_read isClose back), trivial⟩
      have hsource := Body.source_append_rest isClose back
      simp only [List.cons_append, List.append_assoc, hsource]
    · next hm =>
      obtain ⟨rfl, rfl⟩ := Prod.mk.inj h
      refine ⟨_, ?_, .loneLeft hl hleft hc hgap, ?_⟩
      · simp only [List.cons_append, List.append_assoc]
      · intro k hk
        obtain rfl := Option.some.inj hk
        exact ⟨hback m rfl, Bool.eq_false_iff.2 hm⟩

/-- A layout is read from one of the four forms, and what follows it ends it. -/
theorem form_of_read {s r : Document} {b : Layout} (h : read s = some (b, r)) :
    ∃ front, s = front ++ r ∧ Form front b ∧ b.Ends r := by
  cases s with
  | nil => cases h
  | cons l d =>
    rw [read] at h
    split at h
    · next hl =>
      cases hclosed : (Body.read isClose d).closed with
      | true =>
        obtain ⟨c, hc⟩ := Option.isSome_iff_exists.1 hclosed
        have hread : Body.read isClose d
            = ⟨(Body.read isClose d).lines, some c, (Body.read isClose d).rest⟩ := by rw [← hc]
        obtain ⟨hd, hend, hleft⟩ := (Body.read_eq_closed_iff isClose d _ _ c).1 hread
        have hcolumn : (Body.read isClose d).toColumn = ⟨(Body.read isClose d).lines, true⟩ := by
          rw [Body.toColumn, hclosed]
        dsimp only at h
        rw [hcolumn] at h
        have hform := form_of_readAfterLeft hl hleft hend (Option.some.inj h)
        rwa [← hd] at hform
      | false =>
        rw [Body.read_of_open hclosed] at h
        obtain ⟨rfl, rfl⟩ := Prod.mk.inj (Option.some.inj h)
        refine ⟨l :: d, (List.append_nil _).symm, .openLeft hl (Body.not_isEnd_of_open hclosed), ?_⟩
        exact fun k hk => absurd hk (by simp)
    · split at h
      · next hr =>
        obtain ⟨rfl, rfl⟩ := Prod.mk.inj (Option.some.inj h)
        refine ⟨_, ?_, .loneRight hr (Body.delimited_read isClose d), trivial⟩
        rw [List.cons_append, Body.source_append_rest]
      · cases h

theorem form_of_read_append {front r : Document} {b : Layout}
    (h : recogniser.read (front ++ r) = some (b, r)) : Form front b := by
  obtain ⟨front', hfront, hform, -⟩ := form_of_read h
  obtain rfl := List.append_cancel_right hfront
  exact hform

end Layout

/-! ## Footnotes -/

namespace Footnote

/-- A line that ends with a bracket, seen from its end. -/
theorem endsBlock_iff (s : Text) :
    endsBlock s = true ↔ ∃ u b, Text.isBlank b = true ∧ s = u ++ ']' :: b := by
  rw [endsBlock, Text.endsWith_iff]
  constructor
  · rintro ⟨u, hu⟩
    obtain ⟨a, b, -, hb, hs⟩ := Text.exists_trim s
    refine ⟨a ++ u, b, hb, ?_⟩
    rw [hs, ← hu]
    simp
  · rintro ⟨u, b, hb, rfl⟩
    have hsplit : u ++ ']' :: b = (u ++ [']']) ++ b := by simp
    rw [hsplit, Text.trim_append_right _ hb]
    rcases Bool.eq_false_or_eq_true (Text.isBlank u) with hu | hu
    · rw [Text.trim_append_left hu]
      exact List.suffix_refl _
    · rw [Text.trim_concat hu (by decide)]
      exact List.suffix_append _ _

theorem trimEnd_of_endsBlock {s u b : Text} (hb : Text.isBlank b = true) (hs : s = u ++ ']' :: b) :
    Text.trimEnd s = u ++ [']'] := by
  rw [hs, Text.trimEnd_append_cons u (by decide), (Text.trimEnd_eq_nil_iff b).2 hb]

theorem dropBracket_of_endsBlock {s u b : Text} (hb : Text.isBlank b = true)
    (hs : s = u ++ ']' :: b) : dropBracket s = u := by
  rw [dropBracket, trimEnd_of_endsBlock hb hs, List.dropLast_concat]

/-- The lines that make up a footnote. -/
inductive Source : Document → Footnote → Prop
  | line {l : Line} {first : Text} (hl : opening? l = some first)
      (hfirst : endsBlock first = true) : Source [l] ⟨Text.trim (dropBracket first), true⟩
  | block {l : Line} {first : Text} {body : Body} (hl : opening? l = some first)
      (hfirst : endsBlock first = false) (hlines : ∀ m ∈ body.lines, endsBlock m = false)
      (hclosing : ∀ c ∈ body.closing, endsBlock c = true) :
      Source (l :: body.lines ++ body.closing.toList)
        ⟨Text.trim (blockContent first body), body.closed⟩

theorem source_of_read {s r : Document} {b : Footnote} (h : read s = some (b, r)) :
    ∃ front, s = front ++ r ∧ Source front b := by
  cases s with
  | nil => simp [read] at h
  | cons l d =>
    simp only [read] at h
    split at h
    · simp at h
    · next first hl =>
      split at h
      · next hfirst =>
        obtain ⟨rfl, rfl⟩ := Prod.mk.inj (Option.some.inj h)
        exact ⟨[l], rfl, .line hl hfirst⟩
      · next hfirst =>
        obtain ⟨rfl, rfl⟩ := Prod.mk.inj (Option.some.inj h)
        have hbody := Body.delimited_read endsBlock d
        refine ⟨_, ?_, .block hl (Bool.eq_false_iff.2 hfirst) hbody.not_isEnd hbody.isEnd_closing⟩
        conv => lhs; rw [← Body.read_append endsBlock d]
        simp only [List.append_assoc, List.cons_append]

theorem source_of_read_append {front r : Document} {b : Footnote}
    (h : read (front ++ r) = some (b, r)) : Source front b := by
  obtain ⟨front', hfront, hsource⟩ := source_of_read h
  obtain rfl := List.append_cancel_right hfront
  exact hsource

end Footnote

/-! ## Image chunks -/

namespace Figure

/-- The lines of an image chunk: an opener, lines without fence of which one has a complete call,
and a fence, if there is one. -/
inductive Source : Document → ImageChunk → Prop
  | mk {l call : Line} {options argument : Text} {body : Body} (hl : chunkOptions? l = some options)
      (hlines : ∀ m ∈ body.lines, isFence m = false)
      (hclosing : ∀ c ∈ body.closing, isFence c = true) (hcall : call ∈ body.lines)
      (hgraphics : Text.contains call graphicsCall = true)
      (hargument : argument? (Text.trim call) = some argument) :
      Source (l :: body.lines ++ body.closing.toList)
        ⟨resolvePath argument, size? options, body.closed⟩

theorem source_of_read {s r : Document} {b : ImageChunk} (h : read s = some (b, r)) :
    ∃ front, s = front ++ r ∧ Source front b := by
  cases s with
  | nil => cases h
  | cons l d =>
    simp only [read] at h
    split at h
    · cases h
    · next options hl =>
      obtain ⟨b', hb', heq⟩ := Option.map_eq_some_iff.1 h
      obtain ⟨rfl, rfl⟩ := Prod.mk.inj heq
      simp only [ofChunk?, Option.bind_eq_bind, Option.bind_eq_some_iff] at hb'
      obtain ⟨call, hcall, argument, hargument, hb'⟩ := hb'
      obtain rfl := Option.some.inj hb'
      have hbody := Body.delimited_read isFence d
      have hgraphics : Text.contains call graphicsCall = true :=
        List.find?_some (p := fun l => Text.contains l graphicsCall) hcall
      refine ⟨_, ?_, .mk hl hbody.not_isEnd hbody.isEnd_closing (List.mem_of_find?_eq_some hcall)
        hgraphics hargument⟩
      conv => lhs; rw [← Body.read_append isFence d]
      simp only [List.append_assoc, List.cons_append]

theorem source_of_read_append {front r : Document} {b : ImageChunk}
    (h : read (front ++ r) = some (b, r)) : Source front b := by
  obtain ⟨front', hfront, hsource⟩ := source_of_read h
  obtain rfl := List.append_cancel_right hfront
  exact hsource

end Figure

/-! ## Lines that start no block -/

theorem Notes.read_of_not_marker {l : Line} (h : isMarker l = false) (d : Document) :
    read (l :: d) = none := by
  rw [read, if_neg (Bool.eq_false_iff.1 h)]

theorem Layout.read_of_not_opener {l : Line} (hl : isLeft l = false) (hr : isRight l = false)
    (d : Document) : read (l :: d) = none := by
  rw [read, if_neg (Bool.eq_false_iff.1 hl), if_neg (Bool.eq_false_iff.1 hr)]

theorem Figure.read_of_plain {l : Line} (h : chunkOptions? l = none) (d : Document) :
    read (l :: d) = none := by
  rw [read, h]

theorem Figure.read_of_not_chunk {l : Line} (h : Text.startsWith l "```\x7br".toList = false)
    (d : Document) : read (l :: d) = none := by
  have hoptions : chunkOptions? l = none := by
    cases hafter : Text.after? "```\x7br".toList l with
    | none => rw [chunkOptions?, hafter]; rfl
    | some r =>
      rw [Text.after?_eq_some_iff] at hafter
      rw [(Text.startsWith_iff l _).2 ⟨r, hafter.symm⟩] at h
      exact absurd h (by decide)
  exact read_of_plain hoptions d

theorem SetupCode.read_of_not_setup {l : Line} (hcall : startsOptionsCall l = false)
    (hhook : setsCropHook l = false) (d : Document) : read (l :: d) = none := by
  rw [read, if_neg (Bool.eq_false_iff.1 hhook), if_neg (Bool.eq_false_iff.1 hcall)]

theorem Footnote.read_of_plain {l : Line} (h : opening? l = none) (d : Document) :
    read (l :: d) = none := by
  rw [read, h]

theorem Footnote.read_of_not_opening {l : Line} (h : l.opensWith ".footnote[".toList = false)
    (d : Document) : read (l :: d) = none := by
  have hopening : opening? l = none := by
    cases hafter : opening? l with
    | none => rfl
    | some r =>
      rw [opening?, Text.after?_eq_some_iff] at hafter
      rw [(Line.opensWith_iff l (by decide)).2 ⟨r, hafter.symm⟩] at h
      exact absurd h (by decide)
  exact read_of_plain hopening d

end SlideDeck
