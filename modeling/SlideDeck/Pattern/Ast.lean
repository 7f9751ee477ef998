import SlideDeck.Text.Basic

/-!
# Patterns as they are written

* `Pattern.Ast` is a pattern as it is written, `Pattern.SetAst` what stands between brackets.
* `PatternError` are the ways in which a pattern can be wrong.
* `Ast.depth` is how deep a pattern nests.
-/

set_option autoImplicit false

namespace SlideDeck

/-- What is wrong with a pattern. -/
inductive PatternError where
  | groupUnclosed
  | groupUnopened
  | groupNameInvalid
  | groupNameDuplicate
  | lookAround
  | backreference
  | flagUnknown
  | flagDuplicate
  | flagNegationDangling
  | repetitionMissing
  | repetitionUnclosed
  | repetitionCountMissing
  | repetitionCountInvalid
  | escapeUnfinished
  | escapeUnknown
  | hexInvalid
  | boundaryInvalid
  | classUnclosed
  | classItemInvalid
  | classRangeInvalid
  | propertyInvalid
  | propertyUnknown
  | unicodeNotAllowed
  | notUtf8
  | nestingTooDeep
  /-- The compiled pattern would take too much memory. -/
  | tooLarge
  deriving DecidableEq, Repr

namespace PatternError

/-- What is wrong, in words. -/
def message : PatternError → Text
  | groupUnclosed => "unclosed group".toList
  | groupUnopened => "unopened group".toList
  | groupNameInvalid => "invalid capture group name".toList
  | groupNameDuplicate => "duplicate capture group name".toList
  | lookAround => "look-around is not supported".toList
  | backreference => "backreferences are not supported".toList
  | flagUnknown => "unrecognized flag".toList
  | flagDuplicate => "duplicate flag".toList
  | flagNegationDangling => "dangling flag negation operator".toList
  | repetitionMissing => "repetition operator missing expression".toList
  | repetitionUnclosed => "unclosed counted repetition".toList
  | repetitionCountMissing => "repetition quantifier expects a valid decimal".toList
  | repetitionCountInvalid => "invalid repetition count range".toList
  | escapeUnfinished => "incomplete escape sequence".toList
  | escapeUnknown => "unrecognized escape sequence".toList
  | hexInvalid => "invalid hexadecimal escape".toList
  | boundaryInvalid => "invalid special word boundary".toList
  | classUnclosed => "unclosed character class".toList
  | classItemInvalid => "invalid escape sequence in character class".toList
  | classRangeInvalid => "invalid character class range".toList
  | propertyInvalid => "invalid Unicode character class".toList
  | propertyUnknown => "Unicode property not found".toList
  | unicodeNotAllowed => "Unicode not allowed here".toList
  | notUtf8 => "pattern can match invalid UTF-8".toList
  | nestingTooDeep => "exceeds the nest limit".toList
  | tooLarge => "Compiled regex exceeds size limit of 10485760 bytes.".toList

end PatternError

namespace Pattern

/-- What a pattern can switch on and off. -/
inductive Flag where
  | caseInsensitive
  | multiLine
  | dotMatchesNewline
  | swapGreed
  | unicode
  | crlf
  | verbose
  deriving DecidableEq, Repr

/-- The letter of a flag. -/
def Flag.ofLetter? : Char → Option Flag
  | 'i' => some .caseInsensitive
  | 'm' => some .multiLine
  | 's' => some .dotMatchesNewline
  | 'U' => some .swapGreed
  | 'u' => some .unicode
  | 'R' => some .crlf
  | 'x' => some .verbose
  | _ => none

/-- Flags with what they are set to, in the order of writing. -/
abbrev FlagList := List (Flag × Bool)

/-- A class of characters with a letter of its own: `\d`, `\s` or `\w`. -/
inductive Shorthand where
  | digit
  | space
  | word
  deriving DecidableEq, Repr

/-- A set of characters as it is written. -/
inductive SetAst where
  | empty
  /-- A character; `byte` says that it is written as `\x` and two digits. -/
  | literal (c : Char) (byte : Bool)
  | range (first : Char) (firstByte : Bool) (last : Char) (lastByte : Bool)
  | shorthand (k : Shorthand) (negated : Bool)
  /-- A Unicode property by its name. -/
  | property (name : Text) (negated : Bool)
  /-- A property and a value of it. -/
  | propertyValue (name value : Text) (negated : Bool)
  /-- An ASCII class in the notation `[:name:]`. -/
  | posix (name : Text) (negated : Bool)
  | bracket (set : SetAst) (negated : Bool)
  | union (a b : SetAst)
  | inter (a b : SetAst)
  | diff (a b : SetAst)
  | symmDiff (a b : SetAst)
  deriving DecidableEq, Repr

/-- The union of what has been read so far and one more item. -/
def SetAst.add : SetAst → SetAst → SetAst
  | .empty, b => b
  | a, b => .union a b

/-- A condition on a position as it is written. -/
inductive Assertion where
  | lineStart
  | lineEnd
  | textStart
  | textEnd
  | wordBoundary
  | notWordBoundary
  | wordStart
  | wordEnd
  | wordStartHalf
  | wordEndHalf
  deriving DecidableEq, Repr

/-- A pattern as it is written. -/
inductive Ast where
  | empty
  /-- Flags that hold up to the end of the enclosing group. -/
  | setFlags (flags : FlagList)
  | literal (c : Char) (byte : Bool)
  | dot
  | assertion (a : Assertion)
  | set (s : SetAst)
  /-- A repetition; a lazy one has a mark of its own. -/
  | times (a : Ast) (min : Nat) (max : Option Nat) (lazyMark : Bool)
  /-- A group with the flags that hold in it; a capturing one has a number or a name. -/
  | group (capturing : Bool) (flags : FlagList) (a : Ast)
  | seq (a b : Ast)
  | alt (a b : Ast)
  deriving DecidableEq, Repr

namespace Ast

/-- Patterns one after the other. -/
def sequence : List Ast → Ast
  | [] => empty
  | [a] => a
  | a :: as => seq a (sequence as)

/-- A choice between patterns. -/
def choice : List Ast → Ast
  | [] => empty
  | [a] => a
  | a :: as => alt a (choice as)

/-- Whether a pattern is a sequence of several. -/
def isSeq : Ast → Bool
  | seq _ _ => true
  | _ => false

/-- Whether a pattern is a choice between several. -/
def isAlt : Ast → Bool
  | alt _ _ => true
  | _ => false

end Ast

/-- Whether a set is a union of several items. -/
def SetAst.isUnion : SetAst → Bool
  | .union _ _ => true
  | _ => false

/-- How deep a set nests.  A union of any number of items is one level. -/
def SetAst.depth : SetAst → Nat
  | .bracket s _ => s.depth + 1
  | .union a b => max (if a.isUnion then a.depth else a.depth + 1) (b.depth + 1)
  | .inter a b | .diff a b | .symmDiff a b => max a.depth b.depth + 1
  | _ => 0

/-- How deep a pattern nests.  A sequence and a choice are one level, however long they are. -/
def Ast.depth : Ast → Nat
  | .set s => s.depth
  | .times a _ _ _ => a.depth + 1
  | .group _ _ a => a.depth + 1
  | .seq a b => max (a.depth + 1) (if b.isSeq then b.depth else b.depth + 1)
  | .alt a b => max (a.depth + 1) (if b.isAlt then b.depth else b.depth + 1)
  | _ => 0

end Pattern
end SlideDeck
