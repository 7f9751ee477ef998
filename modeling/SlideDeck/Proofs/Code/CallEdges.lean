import SlideDeck.Proofs.Code.CallLeads

/-!
# Where a respelled call begins and ends

A pass looks for the name of a function and for quotation marks, and for nothing around them.  So a
`file.path` call is found behind any text whatever, also where its name is the end of a longer one.
And a path ends at the first quotation mark of either sort, which is the end of its literal only if
the literal has no mark of the other sort.

* `Recogniser.ReplacesAt` — a block that is replaced behind a given text.
* `PathCall.replacesAt_iff` — what stands in front of a `file.path` call plays no part, unless
  another one is open there.
* `PathLiteral.inner` is what stands in a literal up to the next mark of the sort that opens it;
  `PathLiteral.CutAtMark` compares it with what is read.
* `ProjectPath.call_edges` — all three passes.
-/

set_option autoImplicit false

namespace SlideDeck

open Text (isQuote)

/-! ## In front of a call -/

namespace Recogniser

variable {α β : Type}

/-- A block is replaced in a list behind `front`. -/
def ReplacesAt (rec : Recogniser α β) (s front : List α) : Prop :=
  ∃ before source b after, rec.pieces s = before ++ .block source b :: after
    ∧ before.flatMap Piece.source = front

/-- A rewrite replaces a block where it stands. -/
theorem rewrite_of_pieces_eq (rec : Recogniser α β) (render : β → List α) {s source : List α}
    {b : β} {before after : List (Piece α β)}
    (h : rec.pieces s = before ++ .block source b :: after) :
    rec.rewrite render s = before.flatMap (Piece.render render)
      ++ (render b ++ after.flatMap (Piece.render render)) := by
  rw [rewrite, h, List.flatMap_append, List.flatMap_cons]
  rfl

end Recogniser

namespace PathCall

/-- The beginning of a `file.path` call has no other place where one could begin. -/
theorem IsLead.not_mem_tail {l : CallLead} (h : IsLead l) : 'f' ∉ l.text.tail := by
  obtain ⟨front, q, behind⟩ := l
  obtain ⟨rfl, hq, root, hroot, q', hq', rfl⟩ := h
  have hplain : 'f' ∉ ("file.path(".toList).tail ∧ ∀ root ∈ dataRoots, 'f' ∉ root := by decide
  have hquote : ∀ {q : Char}, isQuote q = true → 'f' ≠ q := by
    rintro q hq rfl
    exact absurd hq (by decide)
  show 'f' ∉ ("file.path(".toList).tail ++ q :: (root ++ [q', ','])
  simp only [List.mem_append, List.mem_cons, not_or]
  exact ⟨hplain.1, hquote hq, hplain.2 root hroot, hquote hq', by decide, List.not_mem_nil⟩

theorem read_append_of_some {s r : Text} {b : PathCall} (h : read s = some (b, r)) (t : Text) :
    read (s ++ t) = some (b, r ++ t) := by
  obtain ⟨hb, rfl⟩ := read_eq_some_iff.1 h
  exact read_eq_some_iff.2 ⟨hb, List.append_assoc _ _ _⟩

/-- No call is left open in a text. -/
def Closed (front : Text) : Prop := ∀ t, t <:+ front → opens t = true → ')' ∈ t

theorem closed_nil : Closed [] := by
  intro t ht hopens
  rw [List.suffix_nil.1 ht] at hopens
  exact absurd hopens (by decide)

/-- No call is read across the place where another one could begin. -/
theorem read_append_of_none {t : Text} (h : read t = none) (hne : t ≠ [])
    (hclosed : opens t = true → ')' ∈ t) (s : Text) : read (t ++ 'f' :: s) = none := by
  rw [Option.eq_none_iff_forall_ne_some]
  intro p hp
  obtain ⟨l, x, hl, hx, hclose⟩ := (read_iff _).1 ⟨p, hp⟩
  rcases Text.prefix_append_cases ⟨x, hx.symm⟩ with ⟨y, rfl⟩ | ⟨r, hr, hlead⟩
  · have hmem := hclosed ((opens_iff _).2 ⟨l, y, hl, rfl⟩)
    rw [List.mem_append] at hmem
    obtain ⟨p', hp'⟩ := (read_iff _).2 ⟨l, y, hl, rfl, hmem.resolve_left hl.sound.not_mem_text⟩
    exact Option.some_ne_none p' (hp'.symm.trans h)
  · cases r with
    | nil =>
      rw [List.append_nil] at hlead
      have hmem := hclosed ((opens_iff t).2 ⟨l, [], hl, by rw [hlead, List.append_nil]⟩)
      rw [← hlead] at hmem
      exact hl.sound.not_mem_text hmem
    | cons c r =>
      obtain ⟨rfl, -⟩ := List.cons_prefix_cons.1 hr
      obtain ⟨a, t, rfl⟩ := List.exists_cons_of_ne_nil hne
      refine hl.not_mem_tail ?_
      rw [hlead]
      exact List.mem_append_right t (List.mem_cons_self ..)

/-- Nothing that stands in front plays a part, unless a call is left open there. -/
theorem pieces_append {front : Text} (hfront : Closed front) (s : Text) :
    recogniser.pieces (front ++ 'f' :: s)
      = recogniser.pieces front ++ recogniser.pieces ('f' :: s) := by
  refine recogniser.pieces_append_of_read_append fun t hne ht => ?_
  show read (t ++ 'f' :: s) = (read t).map _
  cases hread : read t with
  | none => exact read_append_of_none hread hne (hfront t ht) s
  | some p => exact read_append_of_some hread _

/-- A call that is left open takes in all that follows, up to a parenthesis. -/
theorem closed_of_pieces_eq {s : Text} {before after : List (Piece Char PathCall)}
    (h : recogniser.pieces s = before ++ after) (hclose : ')' ∈ after.flatMap Piece.source) :
    Closed (before.flatMap Piece.source) := by
  induction s using recogniser.scan_induction generalizing before with
  | nil =>
    rw [Recogniser.pieces_nil] at h
    obtain ⟨rfl, rfl⟩ := List.append_eq_nil_iff.1 h.symm
    exact absurd hclose List.not_mem_nil
  | plain a s hread ih =>
    rw [recogniser.pieces_cons_of_none hread] at h
    cases before with
    | nil => exact closed_nil
    | cons p before =>
      obtain ⟨rfl, hrest⟩ : .plain a = p ∧ recogniser.pieces s = before ++ after := List.cons.inj h
      intro t ht hopens
      rcases List.suffix_cons_iff.1 ht with heq | ht
      · -- the call would have been read here
        obtain ⟨l, x, hl, hx⟩ := (opens_iff t).1 hopens
        have hline : a :: s = l.text ++ (x ++ after.flatMap Piece.source) := by
          rw [← List.append_assoc, ← hx, heq, ← recogniser.pieces_source s, hrest,
            List.flatMap_append]
          rfl
        obtain ⟨p, hp⟩ := (read_iff (a :: s)).2 ⟨l, _, hl, hline, List.mem_append_right x hclose⟩
        exact absurd (hp.symm.trans hread) (Option.some_ne_none p)
      · exact ih hrest t ht hopens
  | block old b r hread ih =>
    rw [recogniser.pieces_append_of_some hread] at h
    cases before with
    | nil => exact closed_nil
    | cons p before =>
      obtain ⟨rfl, hrest⟩ : .block old b = p ∧ recogniser.pieces r = before ++ after :=
        List.cons.inj h
      obtain ⟨-, hold⟩ := read_eq_some_iff.1 hread
      obtain rfl := List.append_cancel_right hold
      intro t ht hopens
      rcases suffix_append_cases (s := b.text) ht with ht | ⟨z, hne, hz, rfl⟩
      · exact ih hrest t ht hopens
      · obtain ⟨z, rfl, -⟩ := (List.suffix_concat_iff.1 hz).resolve_left hne
        simp

/-- **Where a `file.path` call is respelled**: wherever there is one, unless another one is open. -/
theorem replacesAt_iff (front rest : Text) :
    recogniser.ReplacesAt (front ++ ("file.path(".toList ++ rest)) front ↔
      Closed front ∧ ∃ p, read ("file.path(".toList ++ rest) = some p := by
  constructor
  · rintro ⟨before, source, b, after, hpieces, rfl⟩
    have hread := recogniser.read_of_pieces_eq hpieces
    have hline := recogniser.pieces_source
      (before.flatMap Piece.source ++ ("file.path(".toList ++ rest))
    rw [hpieces, List.flatMap_append] at hline
    have hcall : source ++ after.flatMap Piece.source = "file.path(".toList ++ rest :=
      List.append_cancel_left hline
    obtain ⟨-, hsource⟩ := read_eq_some_iff.1 hread
    refine ⟨closed_of_pieces_eq hpieces ?_, _, hcall ▸ hread⟩
    show ')' ∈ source ++ after.flatMap Piece.source
    rw [hsource]
    exact List.mem_append_left _ (List.mem_append_right _ (List.mem_singleton_self _))
  · rintro ⟨hfront, ⟨b, r⟩, hread⟩
    have hpieces := pieces_append hfront ("ile.path(".toList ++ rest)
    have hcall := recogniser.pieces_of_some (s := "file.path(".toList ++ rest) hread
    exact ⟨_, _, b, _, hpieces.trans (congrArg _ hcall), recogniser.pieces_source front⟩

theorem respell_append {front rest r : Text} {b : PathCall} (hfront : Closed front)
    (hread : read ("file.path(".toList ++ rest) = some (b, r)) :
    respell (front ++ ("file.path(".toList ++ rest))
      = respell front ++ (b.render ++ respell r) := by
  have hcall : respell ("file.path(".toList ++ rest) = b.render ++ respell r :=
    recogniser.rewrite_of_some render hread
  have hparts : respell (front ++ ("file.path(".toList ++ rest))
      = respell front ++ respell ("file.path(".toList ++ rest) := by
    show (recogniser.pieces (front ++ 'f' :: ("ile.path(".toList ++ rest))).flatMap _ = _
    rw [pieces_append hfront, List.flatMap_append]
    rfl
  rw [hparts, hcall]

end PathCall

/-! ## The end of a literal -/

namespace PathLiteral

/-- What stands in the literal that `b` was read from: everything up to the next quotation mark of
the sort that opens it.  `rest` is what follows the part that was read. -/
def inner (b : PathLiteral) (rest : Text) : Text :=
  (b.root ++ '/' :: (b.path ++ b.closing :: rest)).takeWhile (· != b.opening)

/-- What is read of a literal is all of it exactly if the literal has no quotation mark of the other
sort.  Otherwise it ends with the first such mark, inside the literal. -/
structure CutAtMark (b : PathLiteral) (rest : Text) : Prop where
  whole_iff : b.inner rest = b.root ++ '/' :: b.path ↔ (b.inner rest).any isQuote = false
  inside : (b.inner rest).any isQuote = true →
    b.closing ≠ b.opening ∧ b.root ++ '/' :: (b.path ++ [b.closing]) <+: b.inner rest

variable {roots : List Text} {b : PathLiteral}

/-- There is no mark in what is read, so it all stands in the literal. -/
theorem IsWritten.inner_eq (h : b.IsWritten roots)
    (hroots : ∀ root ∈ roots, root.any isQuote = false) (rest : Text) :
    (b.root ++ '/' :: b.path).any isQuote = false ∧
      b.inner rest = b.root ++ '/' :: b.path
        ++ (b.closing :: rest).takeWhile (· != b.opening) := by
  have hplain : (b.root ++ '/' :: b.path).any isQuote = false := by
    rw [List.any_append, List.any_cons, hroots b.root h.root, h.path]
    rfl
  have hother : ∀ c ∈ b.root ++ '/' :: b.path, (c != b.opening) = true :=
    bne_of_not_mem (Text.not_mem_of_isQuote h.opening hplain)
  refine ⟨hplain, ?_⟩
  rw [inner, ← List.takeWhile_append_of_pos hother]
  simp

theorem IsWritten.cutAtMark (h : b.IsWritten roots)
    (hroots : ∀ root ∈ roots, root.any isQuote = false) (rest : Text) : b.CutAtMark rest := by
  obtain ⟨hplain, hinner⟩ := h.inner_eq hroots rest
  by_cases heq : b.closing = b.opening
  · have hwhole : b.inner rest = b.root ++ '/' :: b.path := by
      rw [hinner, heq]
      simp
    rw [← hwhole] at hplain
    refine ⟨iff_of_true hwhole hplain, fun hmark => ?_⟩
    rw [hplain] at hmark
    exact absurd hmark (by decide)
  · have hinside : b.root ++ '/' :: (b.path ++ [b.closing]) <+: b.inner rest := by
      rw [hinner, List.takeWhile_cons_of_pos (by simpa using heq)]
      exact ⟨rest.takeWhile (· != b.opening), by simp⟩
    have hmem : b.closing ∈ b.inner rest := hinside.subset (by simp)
    refine ⟨iff_of_false ?_ ?_, fun _ => ⟨heq, hinside⟩⟩
    · intro hwhole
      rw [hwhole] at hmem
      exact Text.not_mem_of_isQuote h.closing hplain hmem
    · intro hnone
      exact Text.not_mem_of_isQuote h.closing hnone hmem

end PathLiteral

/-! ## The three passes -/

namespace ProjectPath

/-- **Where respelled calls begin and end.**  Behind any text whatever, be it a longer name, a
`file.path` call is respelled exactly if it is one of those that are looked for and no other one is
open.  A call that reads a table or runs a source file is replaced up to the first quotation mark in
its first argument, which is the end of the literal exactly if the literal has no mark of the other
sort; else it is inside the literal. -/
theorem call_edges (l : Line) :
    (∀ front rest, l = front ++ ("file.path(".toList ++ rest) →
        (PathCall.recogniser.ReplacesAt l front ↔
          PathCall.Closed front ∧ ∃ p, PathCall.read ("file.path(".toList ++ rest) = some p)
        ∧ ∀ b r, PathCall.Closed front → PathCall.read ("file.path(".toList ++ rest) = some (b, r) →
          PathCall.respell l = PathCall.respell front ++ (b.render ++ PathCall.respell r))
      ∧ (∀ before source b after,
        ReadCall.recogniser.pieces l = before ++ .block source b :: after →
        ReadCall.respell l = before.flatMap (Piece.render ReadCall.render)
            ++ (b.render ++ after.flatMap (Piece.render ReadCall.render))
          ∧ (∃ blank, Text.isBlank blank = true ∧ source = b.text blank)
          ∧ b.literal.CutAtMark (after.flatMap Piece.source))
      ∧ ∀ before source b after,
        SourceCall.recogniser.pieces l = before ++ .block source b :: after →
        SourceCall.respell l = before.flatMap (Piece.render SourceCall.render)
            ++ (b.render ++ after.flatMap (Piece.render SourceCall.render))
          ∧ source = b.text ∧ b.literal.CutAtMark (after.flatMap Piece.source) := by
  refine ⟨?_, ?_, ?_⟩
  · rintro front rest rfl
    exact ⟨PathCall.replacesAt_iff front rest, fun b r => PathCall.respell_append⟩
  · intro before source b after h
    obtain ⟨hb, blank, hblank, hsource⟩ :=
      ReadCall.read_eq_some_iff.1 (ReadCall.recogniser.read_of_pieces_eq h)
    have hroots : ∀ root ∈ dataRoots, root.any isQuote = false := by decide
    exact ⟨ReadCall.recogniser.rewrite_of_pieces_eq ReadCall.render h,
      ⟨blank, hblank, List.append_cancel_right hsource⟩, hb.literal.cutAtMark hroots _⟩
  · intro before source b after h
    obtain ⟨hb, hsource⟩ :=
      SourceCall.read_eq_some_iff.1 (SourceCall.recogniser.read_of_pieces_eq h)
    have hroots : ∀ root ∈ ["R".toList], root.any isQuote = false := by decide
    exact ⟨SourceCall.recogniser.rewrite_of_pieces_eq SourceCall.render h,
      List.append_cancel_right hsource, hb.cutAtMark hroots _⟩

/-- A longer name that ends in `file.path`, and a literal with an apostrophe. -/
theorem call_edges_name_apostrophe :
    (PathCall.Closed "my_".toList
        ∧ PathCall.read "file.path(\"data\", \"a\")\n".toList
          = some (⟨"\"data\", \"a\"".toList⟩, ['\n'])
        ∧ PathCall.recogniser.ReplacesAt "my_file.path(\"data\", \"a\")\n".toList "my_".toList
        ∧ PathCall.respell "my_file.path(\"data\", \"a\")\n".toList
          = "my_here::here(\"data\", \"a\")\n".toList)
      ∧ SourceCall.recogniser.pieces "source(\"R/it's\")".toList
        = [] ++ .block "source(\"R/it'".toList ⟨⟨'"', "R".toList, "it".toList, '\''⟩⟩
          :: [.plain 's', .plain '"', .plain ')']
      ∧ SourceCall.respell "source(\"R/it's\")".toList
        = "source(here::here(\"R/it')s\")".toList
      ∧ PathLiteral.CutAtMark ⟨'"', "R".toList, "it".toList, '\''⟩ "s\")".toList := by
  have hfront : PathCall.Closed "my_".toList := by
    have hall : ∀ t ∈ ("my_".toList).tails, PathCall.opens t = true → ')' ∈ t := by decide
    exact fun t ht => hall t ((List.mem_tails _ _).2 ht)
  have hread : PathCall.read "file.path(\"data\", \"a\")\n".toList
      = some (⟨"\"data\", \"a\"".toList⟩, ['\n']) := by decide
  have hpieces : SourceCall.recogniser.pieces "source(\"R/it's\")".toList
      = [] ++ .block "source(\"R/it'".toList ⟨⟨'"', "R".toList, "it".toList, '\''⟩⟩
        :: [.plain 's', .plain '"', .plain ')'] := by decide +kernel
  obtain ⟨hreplaces, hrespell⟩ := (call_edges "my_file.path(\"data\", \"a\")\n".toList).1
    "my_".toList "\"data\", \"a\")\n".toList rfl
  obtain ⟨hline, -, hcut⟩ := (call_edges "source(\"R/it's\")".toList).2.2 _ _ _ _ hpieces
  have hparts : PathCall.respell "my_".toList = "my_".toList
      ∧ PathCall.respell ['\n'] = ['\n'] := by decide +kernel
  have hcall := hrespell _ _ hfront hread
  rw [hparts.1, hparts.2] at hcall
  exact ⟨⟨hfront, hread, hreplaces.2 ⟨hfront, _, hread⟩, hcall⟩, hpieces, hline, hcut⟩

/-- In both lines the new spelling is no call of the program any more. -/
theorem rewriteLine_name_apostrophe :
    rewriteLine "my_file.path(\"data\", \"a\")\n".toList
        = "my_here::here(\"data\", \"a\")\n".toList
      ∧ rewriteLine "my_file.path(\"data\", \"a\")\n".toList
        ≠ "my_file.path(\"data\", \"a\")\n".toList
      ∧ rewriteLine "source(\"R/it's.R\")\n".toList = "source(here::here(\"R/it')s.R\")\n".toList
      ∧ rewriteLine "source(\"R/it's.R\")\n".toList
        ≠ "source(here::here(\"R/it's.R\"))\n".toList := by
  decide +kernel

end ProjectPath
end SlideDeck
