import SlideDeck.Pattern.CharSet
import SlideDeck.Unicode.Age
import SlideDeck.Unicode.Boundary
import SlideDeck.Unicode.Property
import SlideDeck.Unicode.Script

/-!
# Classes with a name

A name stands for a general category, for a script, or for a property that a character has or
lacks.  Where a property has several values, it is written with one of them.  Names are compared
without case, blanks, hyphens and underscores.

* `CharSet.categories`, `scripts`, `properties` and their siblings are the sets with the names they
  go by, each kind in a `Catalogue`.
* `CharSet.named?` finds the set with a name, `CharSet.valued?` that with a value of a property.

What the standard derives from categories and other properties is derived here in the same way, and
the rest comes from tables.
-/

set_option autoImplicit false

namespace SlideDeck

namespace CharSet

open Unicode (Ascends Category NamedSet)

/-! ## Catalogues -/

/-- Sets with the names they go by. -/
abbrev Catalogue := List (List String × CharSet)

namespace Catalogue

/-- The set with a name. -/
def find? (c : Catalogue) (name : String) : Option CharSet :=
  (List.find? (fun e => e.1.contains name) c).map Prod.snd

/-- The sets of a table. -/
def ofTable (t : List NamedSet) (h : ∀ s ∈ t, Ascends 0 s.bounds) : Catalogue :=
  t.attach.map fun ⟨s, hs⟩ => (s.names, ofBounds s.bounds (h s hs))

/-- Each set together with those before it, and with `before`. -/
def accumulate (before : CharSet) : Catalogue → Catalogue
  | [] => []
  | (names, s) :: c => (names, before.union s) :: accumulate (before.union s) c

end Catalogue

/-! ## General categories -/

/-- What a class can be named for: general categories and what is left beside them. -/
inductive Kind where
  | group (categories : List Category)
  | unassigned
  /-- The group `C`, which takes in the unassigned code points. -/
  | other
  | any
  | assigned
  | ascii
  deriving DecidableEq, Repr

/-- The characters of a kind. -/
def ofKind : Kind → CharSet
  | .group gs => ofCategories gs
  | .unassigned => (ofCategories Category.all).compl
  | .other =>
    (ofCategories (Category.letters ++ Category.marks ++ Category.numbers ++ Category.punctuation
      ++ Category.symbols ++ Category.separators)).compl
  | .any => all
  | .assigned => inter all (ofCategories Category.all)
  | .ascii => range '\x00' '\x7f'

/-- The kinds of characters by their short and long names.  Surrogates are no characters, and their
category has no class. -/
def kindNames : List (String × String × Kind) :=
  [("c", "other", .other), ("cc", "control", .group [.control]),
    ("cc", "cntrl", .group [.control]), ("cf", "format", .group [.format]),
    ("cn", "unassigned", .unassigned), ("co", "privateuse", .group [.privateUse]),
    ("l", "letter", .group Category.letters),
    ("lc", "casedletter", .group Category.casedLetters),
    ("ll", "lowercaseletter", .group [.lowercaseLetter]),
    ("lm", "modifierletter", .group [.modifierLetter]),
    ("lo", "otherletter", .group [.otherLetter]),
    ("lt", "titlecaseletter", .group [.titlecaseLetter]),
    ("lu", "uppercaseletter", .group [.uppercaseLetter]),
    ("m", "mark", .group Category.marks), ("m", "combiningmark", .group Category.marks),
    ("mc", "spacingmark", .group [.spacingMark]),
    ("me", "enclosingmark", .group [.enclosingMark]),
    ("mn", "nonspacingmark", .group [.nonspacingMark]),
    ("n", "number", .group Category.numbers),
    ("nd", "decimalnumber", .group [.decimalNumber]), ("nd", "digit", .group [.decimalNumber]),
    ("nl", "letternumber", .group [.letterNumber]), ("no", "othernumber", .group [.otherNumber]),
    ("p", "punctuation", .group Category.punctuation),
    ("p", "punct", .group Category.punctuation),
    ("pc", "connectorpunctuation", .group [.connectorPunctuation]),
    ("pd", "dashpunctuation", .group [.dashPunctuation]),
    ("pe", "closepunctuation", .group [.closePunctuation]),
    ("pf", "finalpunctuation", .group [.finalPunctuation]),
    ("pi", "initialpunctuation", .group [.initialPunctuation]),
    ("po", "otherpunctuation", .group [.otherPunctuation]),
    ("ps", "openpunctuation", .group [.openPunctuation]),
    ("s", "symbol", .group Category.symbols), ("sc", "currencysymbol", .group [.currencySymbol]),
    ("sk", "modifiersymbol", .group [.modifierSymbol]),
    ("sm", "mathsymbol", .group [.mathSymbol]), ("so", "othersymbol", .group [.otherSymbol]),
    ("z", "separator", .group Category.separators),
    ("zl", "lineseparator", .group [.lineSeparator]),
    ("zp", "paragraphseparator", .group [.paragraphSeparator]),
    ("zs", "spaceseparator", .group [.spaceSeparator]),
    ("any", "any", .any), ("assigned", "assigned", .assigned), ("ascii", "ascii", .ascii)]

/-- The general categories, their groups, and `any`, `assigned` and `ascii`. -/
def categories : Catalogue := kindNames.map fun (short, long, k) => ([short, long], ofKind k)

/-! ## Scripts -/

/-- The characters of a script. -/
def ownScripts : Catalogue :=
  Unicode.Table.scripts.attach.map fun ⟨s, hs⟩ =>
    (s.names, ofBounds s.own (Unicode.ascends_scripts s hs).1)

/-- The characters that a script shares with others. -/
def sharedScripts : Catalogue :=
  Unicode.Table.scripts.attach.map fun ⟨s, hs⟩ =>
    (s.names, ofBounds s.shared (Unicode.ascends_scripts s hs).2)

/-- The common and the inherited characters. -/
def generalScripts : Catalogue :=
  .ofTable Unicode.Table.generalScripts Unicode.ascends_generalScripts

/-- The scripts. -/
def scripts : Catalogue := ownScripts ++ generalScripts

/-- The characters of the script with a name, none if there is no such script. -/
def ofScript (name : String) : CharSet := (scripts.find? name).getD empty

/-- The scripts with what they share.  What is shared by some scripts is not used by all. -/
def scriptExtensions : Catalogue :=
  (ownScripts.zip sharedScripts).map (fun (own, shared) => (own.1, own.2.union shared.2))
    ++ generalScripts.map fun (names, s) => (names, s.diff (unions (sharedScripts.map Prod.snd)))

/-! ## Case -/

/-- The small characters. -/
def lowercase : CharSet :=
  union (ofCategories [.lowercaseLetter]) (ofBounds Unicode.Table.otherLowercase)

/-- The capital characters. -/
def uppercase : CharSet :=
  union (ofCategories [.uppercaseLetter]) (ofBounds Unicode.Table.otherUppercase)

/-- The characters that have case. -/
def cased : CharSet := unions [lowercase, uppercase, ofCategories [.titlecaseLetter]]

/-- The characters that simple folding changes. -/
def foldable : CharSet := ofPoints (Unicode.foldPairs.map Prod.fst)

/-- The characters that others are folded to. -/
def folded : CharSet := ofPoints (Unicode.foldPairs.map Prod.snd)

/-- The characters that full case folding changes. -/
def changesWhenCasefolded : CharSet :=
  symmDiff foldable (ofBounds Unicode.Table.foldingExceptions)

/-- The characters that differ from their small letters. -/
def changesWhenLowercased : CharSet :=
  symmDiff foldable (ofBounds Unicode.Table.lowercasingExceptions)

/-- The characters that differ from their capitals. -/
def changesWhenUppercased : CharSet :=
  symmDiff folded (ofBounds Unicode.Table.uppercasingExceptions)

/-- The characters that are written otherwise at the start of a title. -/
def changesWhenTitlecased : CharSet :=
  symmDiff changesWhenUppercased (ofBounds Unicode.Table.titlecasingExceptions)

/-! ## Properties that are derived from others -/

/-- The alphabetic characters. -/
def alphabetic : CharSet :=
  unions [lowercase, uppercase, ofCategories (.letterNumber :: Category.letters), otherAlphabetic]

/-- The join controls. -/
def joinControl : CharSet := range '\u200c' '\u200d'

/-- The characters that extend the one before them but have no category for it.  The voicing marks of
halfwidth Katakana are letters, which the table leaves out. -/
def otherGraphemeExtend : CharSet :=
  union (diff (ofBounds Unicode.Table.otherGraphemeExtend) recent) (range '\uff9e' '\uff9f')

/-- The characters that are drawn together with the one before them. -/
def graphemeExtend : CharSet :=
  union (ofCategories [.nonspacingMark, .enclosingMark]) otherGraphemeExtend

/-- The characters that have a place of their own. -/
def graphemeBase : CharSet :=
  (unions [ofKind .other, ofCategories [.lineSeparator, .paragraphSeparator],
    graphemeExtend]).compl

/-- The format characters that are drawn together with what is behind them. -/
def prependedMark : CharSet := ofBounds Unicode.Table.prependedMark

/-- The code points that are ignored where they cannot be shown.  Annotation characters and the
format characters of hieroglyphs have to be shown. -/
def defaultIgnorable : CharSet :=
  diff
    (unions [ofBounds Unicode.Table.otherIgnorable, ofCategories [.format],
      ofBounds Unicode.Table.variationSelector])
    (unions [space, range '\ufff9' '\ufffb', range (Char.ofNat 0x13430) (Char.ofNat 0x13440),
      prependedMark])

/-- What is set aside for the syntax of patterns, and so is no part of an identifier. -/
def patternCharacters : CharSet :=
  union (ofBounds Unicode.Table.patternSyntax) (ofBounds Unicode.Table.patternWhiteSpace)

/-- The characters that start an identifier. -/
def identifierStart : CharSet :=
  diff
    (union (ofCategories (.letterNumber :: Category.letters))
      (ofBounds Unicode.Table.otherIdentifierStart))
    patternCharacters

/-- The characters of an identifier. -/
def identifierContinue : CharSet :=
  diff
    (unions [identifierStart,
      ofCategories [.nonspacingMark, .spacingMark, .decimalNumber, .connectorPunctuation],
      ofBounds Unicode.Table.otherIdentifierContinue])
    patternCharacters

/-- The punctuation between letters of a word. -/
def midLetter : CharSet := ofBounds Unicode.Table.midLetter

/-- The punctuation between letters or digits. -/
def midNumberOrLetter : CharSet := ofBounds Unicode.Table.midNumberOrLetter

/-- The characters that are passed over in looking for the case around them. -/
def caseIgnorable : CharSet :=
  unions [ofCategories [.nonspacingMark, .enclosingMark, .format, .modifierLetter, .modifierSymbol],
    midLetter, midNumberOrLetter, single '\'']

/-- The properties that a character has or lacks. -/
def properties : Catalogue :=
  .ofTable Unicode.Table.properties Unicode.ascends_properties ++
    [(["alphabetic", "alpha"], alphabetic), (["otheralphabetic", "oalpha"], otherAlphabetic),
      (["lowercase", "lower"], lowercase), (["uppercase", "upper"], uppercase),
      (["cased"], cased), (["caseignorable", "ci"], caseIgnorable),
      (["changeswhencasefolded", "cwcf"], changesWhenCasefolded),
      (["changeswhenlowercased", "cwl"], changesWhenLowercased),
      (["changeswhenuppercased", "cwu"], changesWhenUppercased),
      (["changeswhentitlecased", "cwt"], changesWhenTitlecased),
      (["changeswhencasemapped", "cwcm"],
        unions [changesWhenLowercased, changesWhenUppercased, changesWhenTitlecased]),
      (["math"], union (ofCategories [.mathSymbol]) (ofBounds Unicode.Table.otherMath)),
      (["whitespace", "wspace", "space"], space), (["joincontrol", "joinc"], joinControl),
      (["graphemebase", "grbase"], graphemeBase), (["graphemeextend", "grext"], graphemeExtend),
      (["othergraphemeextend", "ogrext"], otherGraphemeExtend),
      (["defaultignorablecodepoint", "di"], defaultIgnorable),
      (["idstart", "ids"], identifierStart), (["idcontinue", "idc"], identifierContinue),
      (["xidstart", "xids"],
        diff identifierStart (ofBounds Unicode.Table.unstableIdentifierStart)),
      (["xidcontinue", "xidc"],
        diff identifierContinue (ofBounds Unicode.Table.unstableIdentifierContinue))]

/-! ## Ages -/

/-- The characters that were there with a version. -/
def ages : Catalogue := (Catalogue.ofTable Unicode.Table.ages Unicode.ascends_ages).accumulate empty

/-! ## Boundaries of graphemes -/

/-- The modifiers of the colour of the skin. -/
def emojiModifier : CharSet := ofBounds Unicode.Table.emojiModifier

/-- The letters that make up flags in pairs. -/
def regionalIndicator : CharSet := ofBounds Unicode.Table.regionalIndicator

/-- The format characters that neither are part of a grapheme nor join two. -/
def plainFormat : CharSet :=
  diff (ofCategories [.format]) (unions [joinControl, graphemeExtend, prependedMark])

/-- The controls at which graphemes end. -/
def graphemeControl : CharSet :=
  diff
    (unions [ofCategories [.control, .lineSeparator, .paragraphSeparator], plainFormat,
      inter (ofKind .unassigned) defaultIgnorable])
    (union (single '\r') (single '\n'))

/-- The Hangul syllables. -/
def hangulSyllable : CharSet := range '\uac00' '\ud7a3'

/-- The Hangul syllables without a consonant at the end: one in 28. -/
def openSyllable : CharSet :=
  ofBounds ((List.range 399).flatMap fun i => [0xAC00 + 28 * i, 0xAC01 + 28 * i])

/-- The spacing marks that are drawn together with the letter before them. -/
def attachedMark : CharSet :=
  union
    (diff (ofCategories [.spacingMark])
      (union graphemeExtend (ofBounds Unicode.Table.separateSpacingMark)))
    (ofBounds Unicode.Table.attachedVowel)

/-- The classes that decide on the boundaries of graphemes. -/
def graphemeBreaks : Catalogue :=
  [(["cr"], single '\r'), (["lf"], single '\n'), (["control", "cn"], graphemeControl),
    (["extend", "ex"], union graphemeExtend emojiModifier), (["zwj"], single '\u200d'),
    (["regionalindicator", "ri"], regionalIndicator),
    (["prepend", "pp"], union prependedMark (ofBounds Unicode.Table.prependedLetter)),
    (["spacingmark", "sm"], attachedMark), (["l"], ofBounds Unicode.Table.leadingJamo),
    (["v"], ofBounds Unicode.Table.vowelJamo), (["t"], ofBounds Unicode.Table.trailingJamo),
    (["lv"], openSyllable), (["lvt"], diff hangulSyllable openSyllable)]

/-! ## Boundaries of words -/

/-- The characters that extend a word. -/
def wordExtend : CharSet :=
  diff (unions [graphemeExtend, ofCategories [.spacingMark], emojiModifier]) (single '\u200d')

/-- The letters of Katakana and the marks that go with them. -/
def katakana : CharSet :=
  union (ofScript "katakana") (ofBounds Unicode.Table.otherKatakana)

/-- The letters of Hebrew. -/
def hebrewLetter : CharSet :=
  inter (ofScript "hebrew") (ofCategories [.otherLetter])

/-- The letters of words that are written with blanks between them. -/
def wordLetter : CharSet :=
  union
    (diff alphabetic
      (unions [ofBounds Unicode.Table.ideographic, katakana, ofScript "hiragana", wordExtend,
        hebrewLetter, ofBounds Unicode.Table.complexContext]))
    (ofBounds Unicode.Table.otherWordLetter)

/-- The digits of numbers and the signs that go with them. -/
def numeric : CharSet :=
  union (ofCategories [.decimalNumber]) (ofBounds Unicode.Table.otherNumeric)

/-- The classes that decide on the boundaries of words. -/
def wordBreaks : Catalogue :=
  [(["cr"], single '\r'), (["lf"], single '\n'),
    (["newline", "nl"], ofBounds Unicode.Table.newlineCharacter), (["extend"], wordExtend),
    (["zwj"], single '\u200d'), (["format", "fo"], diff plainFormat (single '\u200b')),
    (["regionalindicator", "ri"], regionalIndicator), (["katakana", "ka"], katakana),
    (["hebrewletter", "hl"], hebrewLetter), (["aletter", "le"], wordLetter),
    (["singlequote", "sq"], single '\''), (["doublequote", "dq"], single '"'),
    (["midletter", "ml"], midLetter), (["midnumlet", "mb"], midNumberOrLetter),
    (["midnum", "mn"], ofBounds Unicode.Table.midNumber), (["numeric", "nu"], numeric),
    (["extendnumlet", "ex"], ofBounds Unicode.Table.wordConnector),
    (["wsegspace"], ofBounds Unicode.Table.wordSpace)]

/-! ## Boundaries of sentences -/

/-- The characters that extend what is before them in a sentence. -/
def sentenceExtend : CharSet :=
  unions [graphemeExtend, ofCategories [.spacingMark], single '\u200d']

/-- The small characters of a sentence.  The letters of Georgian have no case there. -/
def sentenceLower : CharSet :=
  diff lowercase (unions [graphemeExtend, range '\u10d0' '\u10fa', range '\u10fd' '\u10ff'])

/-- The capital characters of a sentence. -/
def sentenceUpper : CharSet :=
  diff (union uppercase (ofCategories [.titlecaseLetter]))
    (union (range '\u1c90' '\u1cba') (range '\u1cbd' '\u1cbf'))

/-- The full stops. -/
def fullStop : CharSet := ofBounds Unicode.Table.ambiguousTerminal

/-- Brackets and quotation marks. -/
def sentenceClose : CharSet :=
  diff
    (unions [ofCategories [.openPunctuation, .closePunctuation, .initialPunctuation,
        .finalPunctuation],
      ofBounds Unicode.Table.quotationMark, ofBounds Unicode.Table.ornamentalQuote])
    (union (single '\uff02') (single '\uff07'))

/-- The line ends other than carriage return and line feed that separate sentences. -/
def sentenceSeparator : CharSet := union (single '\u0085') (range '\u2028' '\u2029')

/-- The classes that decide on the boundaries of sentences. -/
def sentenceBreaks : Catalogue :=
  [(["cr"], single '\r'), (["lf"], single '\n'), (["extend", "ex"], sentenceExtend),
    (["sep", "se"], sentenceSeparator), (["format", "fo"], union plainFormat (single '\u070f')),
    (["sp"], diff space (unions [single '\r', single '\n', sentenceSeparator])),
    (["lower", "lo"], sentenceLower), (["upper", "up"], sentenceUpper),
    (["oletter", "le"],
      union (diff alphabetic (unions [sentenceLower, sentenceUpper, sentenceExtend]))
        (single '\u05f3')),
    (["numeric", "nu"], union numeric (single '\u066c')), (["aterm", "at"], fullStop),
    (["scontinue", "sc"], ofBounds Unicode.Table.sentenceContinuation),
    (["sterm", "st"], diff (ofBounds Unicode.Table.sentenceTerminal) fullStop),
    (["close", "cl"], sentenceClose)]

/-! ## Finding a class by name -/

/-- A name without case, white space, underscores, hyphens and a leading `is`. -/
def looseName (name : List Char) : List Char :=
  let dropped : List Char := match name with
    | i :: s :: r => if i.toLower = 'i' ∧ s.toLower = 's' then r else name
    | _ => name
  let significant (c : Char) : Bool := c.toNat < 128 && c != ' ' && c != '_' && c != '-'
  let kept : List Char := (dropped.filter significant).map Char.toLower
  if dropped.length < name.length ∧ kept = ['c'] then "isc".toList else kept

/-- The set with a name: a property, a general category or a script. -/
def named? (name : List Char) : Option CharSet :=
  (properties ++ categories ++ scripts : Catalogue).find? (String.ofList (looseName name))

/-- The properties that are written with a value. -/
def valuedProperties : List (List String × Catalogue) :=
  [(["generalcategory", "gc"], categories), (["script", "sc"], scripts),
    (["scriptextensions", "scx"], scriptExtensions), (["age"], ages),
    (["graphemeclusterbreak", "gcb"], graphemeBreaks), (["wordbreak", "wb"], wordBreaks),
    (["sentencebreak", "sb"], sentenceBreaks)]

/-- The set with a value of a property. -/
def valued? (property value : List Char) : Option CharSet := do
  let (_, values) ← valuedProperties.find? fun e =>
    e.1.contains (String.ofList (looseName property))
  values.find? (String.ofList (looseName value))

end CharSet
end SlideDeck
