import SlideDeck.Proofs.Pipeline.PhysicalLines
import SlideDeck.Proofs.Slide.LeadingBlock

/-!
# The normal form of a metadata block

A closed metadata block is reduced to two delimiters with at most one title line between them.  The
title line that is written is a title field itself, and the title it states is the one it was
written for, because a title is trimmed and stands on one line.  So the reduced block is read as
what it is, and reducing it again changes nothing.

* `StatesTitle` — the lines that state a title, and which one; `titleOfField?_eq_some_iff` says that
  these are the title fields, among the lines of a document.
* `IsTitle` — the title of a block; `isTitle_iff` says that there is exactly one.
* `titleOfField?_titleLine` — a title line that is read back.
* `normalize_normalize` — a second run changes nothing.
* `normalize_normalForm` — the three cases of the rule and the second run.
-/

set_option autoImplicit false

namespace SlideDeck
namespace Metadata

open Unicode (isSpace)

/-! ## Fields that state a title -/

/-- A line states a title if it has the word `title` and a colon with nothing but white space in
front of each; what stands behind the colon is the title, without the white space around it. -/
def StatesTitle (l : Line) (t : Text) : Prop :=
  ∃ a b value, Text.isBlank a = true ∧ Text.isBlank b = true
    ∧ l = a ++ "title".toList ++ b ++ ":".toList ++ value ∧ t = Text.trim value

/-- The text of a line up to its newline, trimmed. -/
theorem trim_takeWhile_trimStart {l : Line} (hl : l.WellFormed) :
    Text.trim ((Text.trimStart l).takeWhile (· ≠ '\n')) = Text.trim l := by
  obtain ⟨u, hu, rfl⟩ := (Line.wellFormed_iff l).1 hl
  obtain ⟨a, ha, hau⟩ := Text.exists_trimStart u
  have htrim : Text.trim (Text.trimStart u) = Text.trim (u ++ ['\n']) := by
    rw [Text.trim_append_right u (by decide), ← Text.trim_append_left ha, hau]
  by_cases hblank : Text.isBlank u = true
  · have hline : Text.isBlank (u ++ ['\n']) = true := by
      rw [Text.isBlank_append, hblank]
      rfl
    rw [← htrim, Text.trimStart_of_isBlank hline, Text.trimStart_of_isBlank hblank,
      List.takeWhile_nil]
  · have hne : Text.trimStart u ≠ [] := mt (Text.trimStart_eq_nil_iff u).1 hblank
    have hnewline : ∀ c ∈ Text.trimStart u, decide (c ≠ '\n') = true := by
      intro c hc
      rw [decide_eq_true_eq]
      rintro rfl
      exact hu ((List.dropWhile_suffix isSpace).subset hc)
    have hfront : (Text.trimStart u ++ ['\n']).takeWhile (fun c => decide (c ≠ '\n'))
        = Text.trimStart u := (takeWhile_dropWhile_append hnewline (by simp)).1
    rw [Text.trimStart_append hne, hfront, htrim]

/-- A title field begins with the word, and goes on with the colon. -/
theorem titleOfField?_eq_some (l : Line) (t : Text) :
    titleOfField? l = some t ↔
      ∃ a b value, Text.isBlank a = true ∧ Text.isBlank b = true
        ∧ l = a ++ "title".toList ++ b ++ ":".toList ++ value
        ∧ t = Text.trim ((Text.trimStart value).takeWhile (· ≠ '\n')) := by
  simp only [titleOfField?, Option.bind_eq_bind, Option.bind_eq_some_iff, Option.pure_def,
    Option.some.injEq, Text.after?_eq_some_iff]
  constructor
  · rintro ⟨key, hkey, value, hvalue, rfl⟩
    obtain ⟨a, ha, hal⟩ := Text.exists_trimStart l
    obtain ⟨b, hb, hbk⟩ := Text.exists_trimStart key
    refine ⟨a, b, value, ha, hb, ?_, rfl⟩
    rw [← hal, hkey, ← hbk, hvalue]
    simp only [List.append_assoc]
  · rintro ⟨a, b, value, ha, hb, rfl, rfl⟩
    refine ⟨b ++ (":".toList ++ value), ?_, value, ?_, rfl⟩
    · simp only [List.append_assoc]
      rw [Text.trimStart_append_of_isBlank ha]
      exact Text.trimStart_cons (by decide) _
    · rw [Text.trimStart_append_of_isBlank hb]
      exact Text.trimStart_cons (by decide) _

theorem titleOfField?_eq_some_iff {l : Line} (hl : l.WellFormed) (t : Text) :
    titleOfField? l = some t ↔ StatesTitle l t := by
  rw [titleOfField?_eq_some]
  refine exists₃_congr fun a b value => and_congr_right fun _ => and_congr_right fun _ =>
    and_congr_right fun hvalue => ?_
  have hwell : Line.WellFormed value := by
    have hcolon : (a ++ "title".toList ++ b ++ [':']).getLast? ≠ some '\n' := by
      rw [List.getLast?_concat]
      decide
    rw [hvalue] at hl
    exact (Line.wellFormed_of_append hl hcolon).2
  rw [trim_takeWhile_trimStart hwell]

theorem titleOfField?_eq_none_iff {l : Line} (hl : l.WellFormed) :
    titleOfField? l = none ↔ ∀ t, ¬ StatesTitle l t := by
  rw [Option.eq_none_iff_forall_ne_some]
  exact forall_congr' fun t => not_congr (titleOfField?_eq_some_iff hl t)

/-! ## The title of a block -/

/-- The title of a block with these fields: the configured one, else the one that the first field
states that states one, else none, which is as good as an empty one. -/
inductive IsTitle : Option Text → Document → Text → Prop
  | configured (t : Text) (fields : Document) : IsTitle (some t) fields t
  | stated {before after : Document} {l : Line} {t : Text}
      (hbefore : ∀ m ∈ before, ∀ u, ¬ StatesTitle m u) (hl : StatesTitle l t) :
      IsTitle none (before ++ l :: after) t
  | untitled {fields : Document} (h : ∀ m ∈ fields, ∀ u, ¬ StatesTitle m u) :
      IsTitle none fields []

/-- A block has one title. -/
theorem isTitle_iff {configured : Option Text} {fields : Document} (hfields : fields.WellFormed)
    (t : Text) : IsTitle configured fields t ↔ t = (chosenTitle configured fields).getD [] := by
  constructor
  · rintro (_ | ⟨hbefore, hl⟩ | h)
    · rfl
    · obtain ⟨hfront, hback⟩ := List.forall_mem_append.1 hfields
      have hnone := List.findSome?_eq_none_iff.2 fun m hm =>
        (titleOfField?_eq_none_iff (hfront m hm)).2 (hbefore m hm)
      have hsome := (titleOfField?_eq_some_iff (hback _ (List.mem_cons_self ..)) t).2 hl
      rw [chosenTitle, Option.none_or, List.findSome?_append, hnone, Option.none_or,
        List.findSome?_cons_of_isSome (by rw [hsome]; rfl), hsome]
      rfl
    · have hnone := List.findSome?_eq_none_iff.2 fun m hm =>
        (titleOfField?_eq_none_iff (hfields m hm)).2 (h m hm)
      rw [chosenTitle, Option.none_or, hnone]
      rfl
  · rintro rfl
    cases configured with
    | some t => exact .configured t fields
    | none =>
      rw [chosenTitle, Option.none_or]
      cases hfound : fields.findSome? titleOfField? with
      | none =>
        refine .untitled fun m hm => (titleOfField?_eq_none_iff (hfields m hm)).1 ?_
        exact List.findSome?_eq_none_iff.1 hfound m hm
      | some t =>
        obtain ⟨before, l, after, rfl, hl, hbefore⟩ := List.findSome?_eq_some_iff.1 hfound
        obtain ⟨hfront, hback⟩ := List.forall_mem_append.1 hfields
        refine .stated (fun m hm => (titleOfField?_eq_none_iff (hfront m hm)).1 (hbefore m hm)) ?_
        exact (titleOfField?_eq_some_iff (hback l (List.mem_cons_self ..)) t).1 hl

/-! ## A second run -/

/-- **A title line is read back.** -/
theorem titleOfField?_titleLine {t : Text} (htrim : Text.trim t = t) (ht : '\n' ∉ t) :
    titleOfField? ("title: ".toList ++ t ++ ['\n']) = some t := by
  have hwell : Line.WellFormed ("title: ".toList ++ t ++ ['\n']) :=
    Line.wellFormed_append_newline (by simp [ht])
  have hvalue : Text.trim (" ".toList ++ (t ++ ['\n'])) = Text.trim t :=
    Text.trim_append_of_isBlank (by decide) t (by decide)
  refine (titleOfField?_eq_some_iff hwell t).2 ⟨[], [], " ".toList ++ (t ++ ['\n']), rfl, rfl, ?_, ?_⟩
  · simp
  · rw [hvalue, htrim]

theorem trim_titleOfField {l : Line} {t : Text} (h : titleOfField? l = some t) :
    Text.trim t = t := by
  obtain ⟨-, -, value, -, -, -, rfl⟩ := (titleOfField?_eq_some l t).1 h
  exact Text.trim_trim _

/-- The lines that are written for a title state that title and no other. -/
theorem titleLines_titleLines (configured : Option Text) (fields : Document) :
    titleLines (chosenTitle configured (titleLines (chosenTitle configured fields)))
      = titleLines (chosenTitle configured fields) := by
  cases configured with
  | some t => rfl
  | none =>
    rw [chosenTitle, chosenTitle, Option.none_or, Option.none_or]
    cases hfound : fields.findSome? titleOfField? with
    | none => rfl
    | some t =>
      obtain ⟨l, -, hl⟩ := List.exists_of_findSome?_eq_some hfound
      by_cases hempty : t = []
      · rw [hempty]
        rfl
      · have hline : titleLines (some t) = ["title: ".toList ++ t ++ ['\n']] :=
          if_neg (mt List.isEmpty_iff.1 hempty)
        have hread := titleOfField?_titleLine (trim_titleOfField hl) (newline_not_mem_titleOfField hl)
        rw [hline, List.findSome?_cons_of_isSome (by rw [hread]; rfl), hread, hline]

theorem titleLines_eq (title : Option Text) :
    titleLines title
      = if title.getD [] = [] then [] else ["title: ".toList ++ title.getD [] ++ "\n".toList] := by
  cases title with
  | none => rfl
  | some t => simp only [titleLines, List.isEmpty_iff, Option.getD_some]; rfl

/-- A reduced block is found where it was written. -/
theorem read_reduced (title : Option Text) (body : Document) :
    Leading.read (delimiterLine :: titleLines title ++ delimiterLine :: body)
      = .closed (titleLines title) body := by
  have hdelimiter : delimiterLine.trimsTo delimiter = true := by decide
  refine (Leading.read_eq_closed_iff _ _ _).2 ⟨_, _, rfl, hdelimiter, hdelimiter, fun l hl => ?_⟩
  exact Line.trimsTo_eq_false (opensWith_of_mem_titleLines hl) (by decide)

/-- **A second run changes nothing.** -/
theorem normalize_normalize (configured : Option Text) (d : Document) :
    normalize configured (normalize configured d) = normalize configured d := by
  by_cases hclosed : ∃ fields body, Leading.read d = .closed fields body
  · obtain ⟨fields, body, h⟩ := hclosed
    rw [normalize_of_closed h, normalize_of_closed (read_reduced _ body), titleLines_titleLines]
  · have hnot : ∀ fields body, Leading.read d ≠ .closed fields body :=
      fun fields body h => hclosed ⟨fields, body, h⟩
    rw [normalize_of_not_closed hnot, normalize_of_not_closed hnot]

/-! ## The normal form -/

/-- **The normal form of the metadata block.**  A document that does not start with a delimiter, or
has no second one, stays as it is.  Else the block up to the second delimiter is reduced to two
delimiters around at most one title line, and what follows it stays.  The title is the only one that
the block has: the configured one, else the trimmed text behind the colon of the first title field;
an empty one is not written.  A second run changes nothing. -/
theorem normalize_normalForm (configured : Option Text) {d : Document} (hd : d.WellFormed) :
    ((∀ l ∈ d.head?, l.trimsTo delimiter = false) ∨ (∀ l ∈ d.tail, l.trimsTo delimiter = false) →
        normalize configured d = d)
      ∧ (∀ (first : Line) (fields : Document) (last : Line) (body : Document),
        d = first :: fields ++ last :: body → first.trimsTo delimiter = true →
        (∀ l ∈ fields, l.trimsTo delimiter = false) → last.trimsTo delimiter = true →
        ∃ t, (∀ u, IsTitle configured fields u ↔ u = t)
          ∧ normalize configured d
            = "---\n".toList :: (if t = [] then [] else ["title: ".toList ++ t ++ "\n".toList])
              ++ "---\n".toList :: body)
      ∧ normalize configured (normalize configured d) = normalize configured d := by
  refine ⟨?_, ?_, normalize_normalize configured d⟩
  · refine fun h => normalize_of_not_closed (fun fields body hread => ?_) configured
    obtain ⟨first, last, rfl, hfirst, hlast, -⟩ := (Leading.read_eq_closed_iff d _ _).1 hread
    rcases h with h | h
    · rw [h first rfl] at hfirst
      cases hfirst
    · rw [h last (List.mem_append_right fields (List.mem_cons_self ..))] at hlast
      cases hlast
  · rintro first fields last body rfl hfirst hfields hlast
    have hread : Leading.read (first :: fields ++ last :: body) = .closed fields body :=
      (Leading.read_eq_closed_iff _ _ _).2 ⟨first, last, rfl, hfirst, hlast, hfields⟩
    have hwell : Document.WellFormed fields := fun l hl =>
      hd l (List.mem_cons_of_mem first (List.mem_append_left _ hl))
    refine ⟨(chosenTitle configured fields).getD [], fun u => isTitle_iff hwell u, ?_⟩
    rw [normalize_of_closed hread, titleLines_eq]
    rfl

/-- A field that only ends in the word, a key with white space on both sides, a title that starts
with a colon and contains a delimiter, and a second title. -/
theorem normalize_normalForm_colon :
    Document.WellFormed (["---\n", "subtitle: no\n", " title : \t: a --- b \n", "title: c\n",
        " --- \n", "---\n"].map String.toList)
      ∧ normalize none (["---\n", "subtitle: no\n", " title : \t: a --- b \n", "title: c\n",
        " --- \n", "---\n"].map String.toList)
        = ["---\n", "title: : a --- b\n", "---\n", "---\n"].map String.toList := by
  have hd : Document.WellFormed (["---\n", "subtitle: no\n", " title : \t: a --- b \n",
      "title: c\n", " --- \n", "---\n"].map String.toList) := by decide
  obtain ⟨t, ht, h⟩ := (normalize_normalForm none hd).2.1 "---\n".toList
    (["subtitle: no\n", " title : \t: a --- b \n", "title: c\n"].map String.toList)
    " --- \n".toList ["---\n".toList] rfl (by decide) (by decide) (by decide)
  have hnot : ∀ m ∈ ["subtitle: no\n".toList], ∀ u, ¬ StatesTitle m u := by
    intro m hm
    have hwell : ∀ m ∈ ["subtitle: no\n".toList], Line.WellFormed m ∧ titleOfField? m = none := by
      decide
    exact (titleOfField?_eq_none_iff (hwell m hm).1).1 (hwell m hm).2
  have htitle : ": a --- b".toList = t := (ht _).1 (.stated hnot
    ⟨" ".toList, " ".toList, " \t: a --- b \n".toList, by decide, by decide, by decide, by decide⟩)
  rw [← htitle] at h
  exact ⟨hd, h⟩

end Metadata
end SlideDeck
