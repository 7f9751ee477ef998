import SlideDeck.Proofs.Code.Respelling

/-!
# Where the paths of a line stand

A line without any of a few marks has no path to be respelled, and what stands in front of the
first place where one could begin is passed by.

* `ProjectPath.callMarks` and `ProjectPath.linkMarks` — the marks; `rewriteLine_eq_self` and
  `fixLine_eq_self` say that a line without them stays as it is.
* `Recogniser.BeginsWith` — every block begins with a mark; `PathCall.beginsWith_marks` and its two
  siblings are the three kinds of calls.
* `ProjectPath.rewriteLine_append` and `ProjectPath.fixLine_append` — the front of a line.
-/

set_option autoImplicit false

namespace SlideDeck

/-- A text stays as it is if it has none of the marks that every block starts with. -/
theorem Recogniser.rewrite_eq_self_of_marks {β : Type} (rec : Recogniser Char β) (render : β → Text)
    {marks : List Text}
    (hread : ∀ t p, rec.read t = some p → ∃ mark ∈ marks, mark <:+: t) {s : Text}
    (hs : ∀ mark ∈ marks, ¬ mark <:+: s) : rec.rewrite render s = s := by
  refine rec.rewrite_eq_self_of_suffix render fun t ht => ?_
  cases hp : rec.read t with
  | none => rfl
  | some p =>
    obtain ⟨mark, hmark, hmarked⟩ := hread t p hp
    exact absurd (hmarked.trans ht.isInfix) (hs mark hmark)

/-- Every block begins with one of the marks. -/
def Recogniser.BeginsWith {β : Type} (rec : Recogniser Char β) (marks : List Text) : Prop :=
  ∀ t p, rec.read t = some p → ∃ mark ∈ marks, mark <+: t

theorem Recogniser.BeginsWith.rewrite_eq_self {β : Type} {rec : Recogniser Char β}
    {marks : List Text} (h : rec.BeginsWith marks) (render : β → Text) {s : Text}
    (hs : ∀ mark ∈ marks, ¬ mark <:+: s) : rec.rewrite render s = s := by
  refine rec.rewrite_eq_self_of_marks render (fun t p hp => ?_) hs
  obtain ⟨mark, hmark, hprefix⟩ := h t p hp
  exact ⟨mark, hmark, hprefix.isInfix⟩

/-! ## The marks of calls -/

/-- How the calls begin that are rewritten. -/
def ProjectPath.callMarks : List Text :=
  ["file.path(".toList, "read_table(".toList, "read_csv(".toList, "read_delim(".toList,
    "source(".toList]

namespace PathCall

/-- How a `file.path` call begins. -/
def marks : List Text := ["file.path(".toList]

theorem marks_subset : ∀ mark ∈ marks, mark ∈ ProjectPath.callMarks := by decide

theorem beginsWith_marks : recogniser.BeginsWith marks := by
  intro t p hp
  refine ⟨"file.path(".toList, List.mem_singleton_self _, p.1.arguments ++ [')'] ++ p.2, ?_⟩
  rw [read_eq_some hp, List.append_assoc, List.append_assoc, List.append_assoc]

end PathCall

namespace ReadCall

/-- How a call that reads a table begins. -/
def marks : List Text := functions.map (· ++ ['('])

theorem marks_subset : ∀ mark ∈ marks, mark ∈ ProjectPath.callMarks := by decide

theorem beginsWith_marks : recogniser.BeginsWith marks := by
  intro t p hp
  obtain ⟨hfunction, blank, rfl⟩ := read_eq_some hp
  exact ⟨p.1.function ++ ['('], List.mem_map_of_mem hfunction,
    blank ++ p.1.literal.text ++ p.2, by simp⟩

end ReadCall

namespace SourceCall

/-- How a call that runs a source file begins. -/
def marks : List Text := ["source(".toList]

theorem marks_subset : ∀ mark ∈ marks, mark ∈ ProjectPath.callMarks := by decide

theorem beginsWith_marks : recogniser.BeginsWith marks := by
  intro t p hp
  refine ⟨"source(".toList, List.mem_singleton_self _, p.1.literal.text ++ p.2, ?_⟩
  rw [read_eq_some hp, List.append_assoc]

end SourceCall

namespace ProjectPath

/-- What stands in an image link that is rewritten. -/
def linkMarks : List Text := ["](images/".toList, "](data/".toList]

theorem rewriteLine_eq_self {l : Line} (h : ∀ mark ∈ callMarks, ¬ mark <:+: l) :
    rewriteLine l = l := by
  have hpath : PathCall.recogniser.rewrite PathCall.render l = l :=
    PathCall.beginsWith_marks.rewrite_eq_self PathCall.render fun mark hmark =>
      h mark (PathCall.marks_subset mark hmark)
  have hread : ReadCall.recogniser.rewrite ReadCall.render l = l :=
    ReadCall.beginsWith_marks.rewrite_eq_self ReadCall.render fun mark hmark =>
      h mark (ReadCall.marks_subset mark hmark)
  have hsource : SourceCall.recogniser.rewrite SourceCall.render l = l :=
    SourceCall.beginsWith_marks.rewrite_eq_self SourceCall.render fun mark hmark =>
      h mark (SourceCall.marks_subset mark hmark)
  rw [rewriteLine, hpath, hread, hsource]

theorem fixLine_eq_self {l : Line} (h : ∀ mark ∈ linkMarks, ¬ mark <:+: l) : fixLine l = l := by
  refine Recogniser.rewrite_eq_self_of_marks _ _ (fun t p hp => ?_) h
  obtain ⟨hroot, rfl⟩ := ImageLink.read_eq_some hp
  have hmarks : ∀ root ∈ ["images/".toList, "data/".toList], "](".toList ++ root ∈ linkMarks := by
    decide
  exact ⟨"](".toList ++ p.1.root, hmarks _ hroot, "![".toList ++ p.1.alternative, p.2, by simp⟩

/-! ## The front of a line -/

theorem rewriteLine_append {front : Text} (hfront : ∀ c ∈ front, c ∉ oldOpenings) (l : Line) :
    rewriteLine (front ++ l) = front ++ rewriteLine l := by
  rw [rewriteLine, PathCall.respells.rewrite_append_of_not_opening hfront,
    ReadCall.respells.rewrite_append_of_not_opening hfront,
    SourceCall.respells.rewrite_append_of_not_opening hfront, rewriteLine]

theorem fixLine_append {front : Text} (hfront : ∀ c ∈ front, c ∉ oldOpenings) (l : Line) :
    fixLine (front ++ l) = front ++ fixLine l :=
  ImageLink.respells.rewrite_append_of_not_opening hfront l

end ProjectPath
end SlideDeck
