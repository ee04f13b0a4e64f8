import FluentRegex.Expr.Basic
import FluentRegex.Syntax.Fault
import FluentRegex.Unicode.CaseFolding
import FluentRegex.Unicode.Property

/-!
# The meaning of a syntax tree

A tree is turned into an expression from left to right, under the modes in force. Flags in the
pattern change the modes for the rest of the group they stand in, also for its later branches.

A class is closed under case variants before it is negated, and so is each side of an operator.
With Unicode off, a class that would match a byte which is no character is a fault: every negated
class does so.
-/

namespace FluentRegex

/-! ## Modes -/

/-- The modes that decide what a pattern means. -/
structure Modes where
  caseInsensitive : Bool := false
  multiLine : Bool := false
  dotAll : Bool := false
  swapGreed : Bool := false
  unicode : Bool := true
  crlf : Bool := false
deriving DecidableEq, Repr

namespace Modes

open Syntax (Flag FlagItem)

/-- Switches a mode. -/
def put (m : Modes) (f : Flag) (on : Bool) : Modes :=
  match f with
  | .caseInsensitive => { m with caseInsensitive := on }
  | .multiLine => { m with multiLine := on }
  | .dotAll => { m with dotAll := on }
  | .swapGreed => { m with swapGreed := on }
  | .unicode => { m with unicode := on }
  | .crlf => { m with crlf := on }
  | .verbose => m

/-- Switches modes on or off, up to the sign of negation, and off after it. -/
def applyAs (on : Bool) (m : Modes) : List FlagItem → Modes
  | [] => m
  | .negation :: rest => applyAs false m rest
  | .flag f :: rest => applyAs on (m.put f on) rest

/-- Switches modes as a list of flags says. -/
def apply (m : Modes) (items : List FlagItem) : Modes := applyAs true m items

end Modes

namespace Syntax

/-! ## Classes -/

/-- The characters of an ASCII class. -/
def AsciiClass.members : AsciiClass → CharSet
  | .alnum => CharSet.ofCodes [(0x30, 0x39), (0x41, 0x5A), (0x61, 0x7A)]
  | .alpha => CharSet.ofCodes [(0x41, 0x5A), (0x61, 0x7A)]
  | .ascii => CharSet.ascii
  | .blank => CharSet.ofCodes [(0x09, 0x09), (0x20, 0x20)]
  | .cntrl => CharSet.ofCodes [(0x00, 0x1F), (0x7F, 0x7F)]
  | .digit => CharSet.ofCodes [(0x30, 0x39)]
  | .graph => CharSet.ofCodes [(0x21, 0x7E)]
  | .lower => CharSet.ofCodes [(0x61, 0x7A)]
  | .print => CharSet.ofCodes [(0x20, 0x7E)]
  | .punct => CharSet.ofCodes [(0x21, 0x2F), (0x3A, 0x40), (0x5B, 0x60), (0x7B, 0x7E)]
  | .space => CharSet.ofCodes [(0x09, 0x0D), (0x20, 0x20)]
  | .upper => CharSet.ofCodes [(0x41, 0x5A)]
  | .word => CharSet.asciiWordChars
  | .xdigit => CharSet.ofCodes [(0x30, 0x39), (0x41, 0x46), (0x61, 0x66)]

/-- The characters of a class with a letter of its own. -/
def Shorthand.members (unicode : Bool) : Shorthand → CharSet
  | .digit => if unicode then CharSet.digits else CharSet.asciiDigits
  | .blank => if unicode then CharSet.blanks else CharSet.asciiBlanks
  | .word => if unicode then CharSet.wordChars else CharSet.asciiWordChars

/-- Closes a set under case variants, if case does not count. -/
def folded (m : Modes) (s : CharSet) : CharSet :=
  if m.caseInsensitive then if m.unicode then s.foldCase else s.foldAsciiCase else s

/-- Negates a set. With Unicode off its complement holds bytes that are no characters. -/
def negated (m : Modes) (span : Span) (negate : Bool) (s : CharSet) : Except Fault CharSet :=
  if negate then
    if m.unicode then .ok s.compl else .error ⟨.invalidUtf8, span, none⟩
  else .ok s

/-- The characters of a class with a letter of its own, which case variants do not extend. -/
def shorthandSet (m : Modes) (span : Span) (negate : Bool) (s : Shorthand) : Except Fault CharSet :=
  negated m span negate (s.members m.unicode)

/-- The characters of a Unicode property. -/
def propertySet (m : Modes) (span : Span) (negate : Bool) (name : PropertyName) :
    Except Fault CharSet :=
  if !m.unicode then .error ⟨.unicodeNotAllowed, span, none⟩
  else
    let found := match name with
      | .name text => Property.named text
      | .valued property value => Property.valued property value
    match found with
    | .ok s => negated m span negate (folded m s)
    | .error .unknownProperty => .error ⟨.propertyUnknown, span, none⟩
    | .error .unknownValue => .error ⟨.propertyValueUnknown, span, none⟩

/-- A literal in brackets. With Unicode off it has to be an ASCII character. -/
def Literal.resolve (m : Modes) (l : Literal) : Except Fault Char :=
  if m.unicode || l.char.toNat < 0x80 then .ok l.char
  else if l.byte then .error ⟨.invalidUtf8, l.span, none⟩
  else .error ⟨.unicodeNotAllowed, l.span, none⟩

mutual

/-- The characters of a class. -/
def ClassTree.members (m : Modes) : ClassTree → Except Fault CharSet
  | .nothing _ => .ok CharSet.empty
  | .literal l =>
    match l.resolve m with
    | .ok c => .ok (CharSet.singleton c)
    | .error e => .error e
  | .range _ lo hi =>
    match lo.resolve m, hi.resolve m with
    | .ok a, .ok b => .ok (CharSet.ofRange a b)
    | .error e, _ => .error e
    | .ok _, .error e => .error e
  | .ascii span negate c => negated m span negate (folded m c.members)
  | .shorthand span negate s => shorthandSet m span negate s
  | .property span negate name => propertySet m span negate name
  | .bracketed span negate inner =>
    match inner.members m with
    | .ok s => negated m span negate (folded m s)
    | .error e => .error e
  | .union _ items => ClassTree.allMembers m items
  | .operation _ op lhs rhs =>
    match lhs.members m with
    | .error e => .error e
    | .ok a =>
      match rhs.members m with
      | .error e => .error e
      | .ok b =>
        let a := folded m a
        let b := folded m b
        .ok (match op with
          | .intersection => a.inter b
          | .difference => a.diff b
          | .symmetricDifference => a.symmDiff b)

/-- The characters of all the given classes together. -/
def ClassTree.allMembers (m : Modes) : List ClassTree → Except Fault CharSet
  | [] => .ok CharSet.empty
  | t :: ts =>
    match t.members m with
    | .error e => .error e
    | .ok s =>
      match ClassTree.allMembers m ts with
      | .error e => .error e
      | .ok r => .ok (s.union r)

end

/-! ## Atoms and trees -/

/-- The condition that an anchor puts on a place. -/
def Anchor.look (m : Modes) : Anchor → Look
  | .lineStart =>
    if m.multiLine then if m.crlf then .crlfLineStart else .lineStart else .textStart
  | .lineEnd => if m.multiLine then if m.crlf then .crlfLineEnd else .lineEnd else .textEnd
  | .textStart => .textStart
  | .textEnd => .textEnd
  | .wordBoundary => .word .boundary m.unicode
  | .notWordBoundary => .word .notBoundary m.unicode
  | .wordStart => .word .start m.unicode
  | .wordEnd => .word .stop m.unicode
  | .wordStartHalf => .word .startHalf m.unicode
  | .wordEndHalf => .word .stopHalf m.unicode

/-- The characters that a dot stands for. -/
def dotSet (m : Modes) : CharSet :=
  if m.dotAll then CharSet.univ
  else if m.crlf then (CharSet.ofList ['\n', '\r']).compl
  else (CharSet.singleton '\n').compl

/-- The expression of an atom. -/
def Atom.expr (m : Modes) (span : Span) : Atom → Except Fault Expr
  | .literal c byte =>
    if !m.unicode && byte && 0x80 ≤ c.toNat then .error ⟨.invalidUtf8, span, none⟩
    else .ok (.set (folded m (CharSet.singleton c)))
  | .dot => if m.unicode then .ok (.set (dotSet m)) else .error ⟨.invalidUtf8, span, none⟩
  | .anchor a => .ok (.look (a.look m))
  | .shorthand negate s =>
    match shorthandSet m span negate s with
    | .ok s => .ok (.set s)
    | .error e => .error e
  | .property negate name =>
    match propertySet m span negate name with
    | .ok s => .ok (.set s)
    | .error e => .error e

mutual

/-- The expression of a tree under the given modes, and the modes in force after it. -/
def Tree.expr (m : Modes) : Tree → Except Fault (Expr × Modes)
  | .empty _ => .ok (.empty, m)
  | .flags _ items => .ok (.empty, m.apply items)
  | .atom span a =>
    match a.expr m span with
    | .ok e => .ok (e, m)
    | .error e => .error e
  | .bracket span negate inner =>
    match inner.members m with
    | .error e => .error e
    | .ok s =>
      match negated m span negate (folded m s) with
      | .ok s => .ok (.set s, m)
      | .error e => .error e
  | .repetition _ min max lazily body =>
    match body.expr m with
    | .error e => .error e
    | .ok (e, m') => .ok (Expr.repeated min max (lazily == m'.swapGreed) e, m')
  | .group _ kind body =>
    match kind with
    | .plain items =>
      match body.expr (m.apply items) with
      | .ok (e, _) => .ok (e, m)
      | .error e => .error e
    | .capture index =>
      match body.expr m with
      | .ok (e, _) => .ok (.group index none e, m)
      | .error e => .error e
    | .named index name =>
      match body.expr m with
      | .ok (e, _) => .ok (.group index (some name) e, m)
      | .error e => .error e
  | .alternation _ branches =>
    match Tree.exprs m branches with
    | .ok (es, m') => .ok (Expr.choice es, m')
    | .error e => .error e
  | .sequence _ items =>
    match Tree.exprs m items with
    | .ok (es, m') => .ok (Expr.sequence es, m')
    | .error e => .error e

/-- The expressions of trees that are read one after the other. -/
def Tree.exprs (m : Modes) : List Tree → Except Fault (List Expr × Modes)
  | [] => .ok ([], m)
  | t :: ts =>
    match t.expr m with
    | .error e => .error e
    | .ok (e, m') =>
      match Tree.exprs m' ts with
      | .error e => .error e
      | .ok (es, m'') => .ok (e :: es, m'')

end

end Syntax

end FluentRegex
