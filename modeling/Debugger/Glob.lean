/-! # Class name patterns

Glob patterns over names read as byte strings: `?` is any byte, `*` any run of bytes, `[...]` a set
of bytes, `{a,b}` alternatives, and `**` between slashes any run of directories.  A pattern is
parsed into pieces, and a piece is understood through the ends it can reach in a name.
-/

namespace Debugger

namespace Glob

/-- A piece of a pattern. -/
inductive Piece where
  | literal (c : Char)
  | any
  | zeroOrMore
  /-- A leading `**/`. -/
  | recursivePrefix
  /-- A trailing `/**`. -/
  | recursiveSuffix
  /-- An inner `/**/`. -/
  | recursiveZeroOrMore
  | charClass (negated : Bool) (ranges : List (Char × Char))
  | alternates (branches : List (List Piece))
  deriving Repr, Inhabited, BEq

/-- Why a text is no pattern. -/
inductive Error where
  | unclosedClass
  | invalidRange (first last : Char)
  | unopenedAlternates
  | unclosedAlternates
  | danglingEscape
  deriving DecidableEq, Repr, Inhabited

def Error.message : Error → String
  | unclosedClass => "unclosed character class; missing ']'"
  | invalidRange a b => "invalid range; '" ++ a.toString ++ "' > '" ++ b.toString ++ "'"
  | unopenedAlternates =>
    "unopened alternate group; missing '\x7b' (maybe escape '\x7d' with '[\x7d]'?)"
  | unclosedAlternates =>
    "unclosed alternate group; missing '\x7d' (maybe escape '\x7b' with '[\x7b]'?)"
  | danglingEscape => "dangling '\\'"

/-- The contents of a class after its opening bracket and negation: the ranges, latest first, whether the
last character may still become the start of a range, and the rest after the closing bracket. -/
def parseClass (first inRange : Bool) (ranges : List (Char × Char)) :
    List Char → Except Error (List (Char × Char) × List Char)
  | [] => .error .unclosedClass
  | c :: rest =>
    if c = ']' ∧ !first then
      .ok ((if inRange then ('-', '-') :: ranges else ranges).reverse, rest)
    else if c = '-' ∧ !first ∧ !inRange then
      parseClass false true ranges rest
    else if inRange then
      match ranges with
      | (a, _) :: earlier =>
        if c < a then .error (.invalidRange a c)
        else parseClass false false ((a, c) :: earlier) rest
      | [] => parseClass false false [(c, c)] rest
    else parseClass false false ((c, c) :: ranges) rest

/-- Pieces read so far: the branch being read, latest piece first, and the alternations around it,
innermost first, each with its finished branches (latest first) and the pieces before it. -/
structure Reading where
  current : List Piece
  enclosing : List (List (List Piece) × List Piece)

/-- The state before any piece. -/
def Reading.start : Reading := ⟨[], []⟩

def Reading.push (r : Reading) (p : Piece) : Reading := { r with current := p :: r.current }

/-- A run of two stars: `before` is the character in front of it and `rest` what follows. -/
def parseDoubleStar (r : Reading) (before : Option Char) (rest : List Char) : Reading × List Char :=
  let plain := (r.push .zeroOrMore).push .zeroOrMore
  let join (p : Piece) : Reading :=
    match r.current with
    | .recursivePrefix :: _ | .recursiveSuffix :: _ => r
    | _ :: earlier => { r with current := p :: earlier }
    | [] => r.push p
  if r.current.isEmpty then
    match rest with
    | [] => (r.push .recursivePrefix, [])
    | '/' :: rest => (r.push .recursivePrefix, rest)
    | _ => (plain, rest)
  else if before ≠ some '/' ∧ (r.enclosing.isEmpty ∨ before ≠ some ',' ∧ before ≠ some '\x7b') then
    (plain, rest)
  else
    match rest with
    | [] => (join .recursiveSuffix, [])
    | '/' :: rest => (join .recursiveZeroOrMore, rest)
    | c :: _ =>
      if (c = ',' ∨ c = '\x7d') ∧ !r.enclosing.isEmpty then (join .recursiveSuffix, rest)
      else (plain, rest)

/-- Reads a pattern with at most `fuel` pieces; `before` is the character read last. -/
def parseFrom : Nat → Reading → Option Char → List Char → Except Error Reading
  | 0, r, _, _ => .ok r
  | _ + 1, r, _, [] => .ok r
  | fuel + 1, r, before, c :: rest =>
    match c with
    | '?' => parseFrom fuel (r.push .any) (some c) rest
    | '*' =>
      match rest with
      | '*' :: rest =>
        let (r, rest') := parseDoubleStar r before rest
        let slash := rest'.length < rest.length
        parseFrom fuel r (some (if slash then '/' else '*')) rest'
      | _ => parseFrom fuel (r.push .zeroOrMore) (some c) rest
    | '[' => do
      let (negated, body) := match rest with
        | '!' :: body => (true, body)
        | '^' :: body => (true, body)
        | _ => (false, rest)
      let (ranges, rest) ← parseClass true false [] body
      parseFrom fuel (r.push (.charClass negated ranges)) (some ']') rest
    | '\x7b' => parseFrom fuel ⟨[], ([], r.current) :: r.enclosing⟩ (some c) rest
    | '\x7d' =>
      match r.enclosing with
      | [] => .error .unopenedAlternates
      | (finished, outer) :: enclosing =>
        let branches := (r.current.reverse :: finished).reverse
        parseFrom fuel ⟨.alternates branches :: outer, enclosing⟩ (some c) rest
    | ',' =>
      match r.enclosing with
      | [] => parseFrom fuel (r.push (.literal c)) (some c) rest
      | (finished, outer) :: enclosing =>
        parseFrom fuel ⟨[], (r.current.reverse :: finished, outer) :: enclosing⟩ (some c) rest
    | '\\' =>
      match rest with
      | [] => .error .danglingEscape
      | d :: rest => parseFrom fuel (r.push (.literal d)) (some d) rest
    | c => parseFrom fuel (r.push (.literal c)) (some c) rest

/-- The pieces of a pattern. -/
def parse (text : String) : Except Error (List Piece) := do
  let r ← parseFrom (text.length + 1) .start none text.toList
  if r.enclosing.isEmpty then .ok r.current.reverse else .error .unclosedAlternates

/-! ### Matching

A place in a name is what is left of the name there. -/

/-- The bytes of a character. -/
def bytes (c : Char) : List UInt8 := (String.singleton c).toUTF8.toList

/-- What is left after `lit`, where the name goes on with it. -/
def stripBytes : List UInt8 → List UInt8 → Option (List UInt8)
  | [], name => some name
  | b :: lit, c :: name => if b = c then stripBytes lit name else none
  | _ :: _, [] => none

/-- The byte ranges of a class: a range of characters runs from the last byte of its first to the
first byte of its last, and the bytes around these stand for themselves. -/
def byteRanges : List (Char × Char) → List (UInt8 × UInt8)
  | [] => []
  | (a, b) :: rest =>
    let as := bytes a
    let bs := bytes b
    let here :=
      if a = b then as.map fun x => (x, x)
      else as.dropLast.map (fun x => (x, x)) ++ [(as.getLastD 0, bs.headD 0)] ++
        (bs.drop 1).map fun x => (x, x)
    here ++ byteRanges rest

/-- The longest place in a set of places. -/
def longest (places : List (List UInt8)) : Option (List UInt8) :=
  places.foldl (fun best p => match best with
    | none => some p
    | some b => if b.length < p.length then some p else some b) none

/-- Every place at or after `p`. -/
def suffixes : List UInt8 → List (List UInt8)
  | [] => [[]]
  | b :: p => (b :: p) :: suffixes p

/-- Places after some slash at or after `p`. -/
def afterSlashes : List UInt8 → List (List UInt8)
  | [] => []
  | b :: p => if b = 47 then p :: afterSlashes p else afterSlashes p

/-- One place of each length. -/
def dedup (places : List (List UInt8)) : List (List UInt8) :=
  places.foldl (fun kept p => if kept.any (·.length == p.length) then kept else kept ++ [p]) []

mutual

/-- Whether the piece stands for no text at all, as an empty group does. -/
def Piece.isBlank : Piece → Bool
  | .alternates branches => branchesAreBlank branches
  | _ => false

/-- The same for a sequence. -/
def piecesAreBlank : List Piece → Bool
  | [] => true
  | p :: ps => p.isBlank && piecesAreBlank ps

/-- The same for every branch of a group. -/
def branchesAreBlank : List (List Piece) → Bool
  | [] => true
  | b :: bs => piecesAreBlank b && branchesAreBlank bs

end

mutual

/-- The places that one piece can lead to from a set of places.  A blank branch offers nothing beside
branches that are not blank. -/
def advance (places : List (List UInt8)) : Piece → List (List UInt8)
  | .literal c => places.filterMap (stripBytes (bytes c))
  | .any => places.filterMap fun p => match p with
    | [] => none
    | _ :: p => some p
  | .zeroOrMore => (longest places).elim [] suffixes
  | .recursivePrefix =>
    dedup (places ++ (longest places).elim [] afterSlashes)
  | .recursiveSuffix =>
    (longest (places.filterMap (stripBytes [47]))).elim [] suffixes
  | .recursiveZeroOrMore =>
    let inside := places.filterMap (stripBytes [47])
    dedup (inside ++ (longest inside).elim [] afterSlashes)
  | .charClass negated ranges =>
    let ranges := byteRanges ranges
    places.filterMap fun p => match p with
      | [] => none
      | b :: p => if ranges.any (fun r => r.1 ≤ b && b ≤ r.2) != negated then some p else none
  | .alternates branches =>
    if branchesAreBlank branches then places else dedup (advanceAny places branches)

/-- The places that a sequence of pieces can lead to. -/
def advanceAll (places : List (List UInt8)) : List Piece → List (List UInt8)
  | [] => places
  | p :: ps => advanceAll (advance places p) ps

/-- The places that some branch can lead to. -/
def advanceAny (places : List (List UInt8)) : List (List Piece) → List (List UInt8)
  | [] => []
  | b :: bs =>
    if piecesAreBlank b then advanceAny places bs
    else advanceAll places b ++ advanceAny places bs

end

/-! ### File names

The file name of a path is what follows its last slash; a path to a parent directory has none. -/

/-- The text of pieces that are all literal. -/
def literalText? (ps : List Piece) : Option (List Char) :=
  ps.mapM fun p => match p with
    | .literal c => some c
    | _ => none

/-- The pieces after a leading star. -/
def dropStar : List Piece → List Piece
  | .zeroOrMore :: ps => ps
  | ps => ps

/-- Whether the pattern is a literal text. -/
def isLiteral (ps : List Piece) : Bool := (literalText? ps).isSome

/-- Whether the pattern asks for a literal file name in any directory. -/
def isFileName : List Piece → Bool
  | .recursivePrefix :: ps => !ps.isEmpty && (literalText? ps).any (!·.contains '/')
  | _ => false

/-- Whether the pattern asks for nothing but an extension. -/
def isExtension (ps : List Piece) : Bool :=
  let ps := match ps with
    | .recursivePrefix :: ps => ps
    | ps => ps
  match ps with
  | .zeroOrMore :: .literal '.' :: ps =>
    (literalText? ps).any fun cs => !cs.contains '.' && !cs.contains '/'
  | _ => false

/-- Whether the pattern asks for nothing but a literal ending. -/
def isEnding : List Piece → Bool
  | .recursivePrefix :: ps =>
    (literalText? (dropStar ps)).any fun cs =>
      !cs.isEmpty && (cs ≠ ['/'] || (dropStar ps).length = ps.length)
  | ps => (literalText? (dropStar ps)).any fun cs => !cs.isEmpty && cs ≠ ['/']

/-- Whether the pattern ends in a literal extension. -/
def endsInExtension (ps : List Piece) : Bool :=
  let extension := ps.reverse.takeWhile fun p => match p with
    | .literal c => c ≠ '.' && c ≠ '/'
    | _ => false
  match ps.reverse.drop extension.length with
  | .literal '.' :: _ => true
  | _ => false

/-- Whether the pattern is judged by the file name, so that it covers no path without one. -/
def needsFileName (ps : List Piece) : Bool :=
  isFileName ps || endsInExtension ps && !isLiteral ps && (isExtension ps || !isEnding ps)

/-- What follows the last slash. -/
def lastComponent (name : String) : List Char :=
  (name.toList.reverse.takeWhile (· ≠ '/')).reverse

/-- Whether the pattern covers the whole name. -/
def covers (pieces : List Piece) (name : String) : Bool :=
  match pieces with
  | [.recursivePrefix] => true
  | _ =>
    (advanceAll [name.toUTF8.toList] pieces).any List.isEmpty &&
      !(lastComponent name == ['.', '.'] && needsFileName pieces)

mutual

/-- Whether every byte range in the piece runs upwards. -/
def Piece.wellFormed : Piece → Bool
  | .charClass _ ranges => (byteRanges ranges).all fun r => r.1 ≤ r.2
  | .alternates branches => branchesWellFormed branches
  | _ => true

/-- The same for a sequence. -/
def piecesWellFormed : List Piece → Bool
  | [] => true
  | p :: ps => p.wellFormed && piecesWellFormed ps

/-- The same for branches. -/
def branchesWellFormed : List (List Piece) → Bool
  | [] => true
  | b :: bs => piecesWellFormed b && branchesWellFormed bs

end

end Glob

end Debugger
