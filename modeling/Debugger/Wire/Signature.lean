/-! # Type signatures

The machine names a type by its signature: a letter for a primitive type, a class name between `L` and `;`
with slashes in it, and a bracket in front for every dimension of an array.
-/

namespace Debugger.Wire.Signature

/-- The signature of a class, given by its name or by the signature itself. -/
def ofClassName (name : String) : String :=
  let cs := name.toList
  if cs.head? = some 'L' && cs.getLast? = some ';' then name
  else String.ofList ('L' :: cs.map (fun c => if c = '.' then '/' else c) ++ [';'])

/-- The name of a primitive type by its letter. -/
def primitive? : Char → Option String
  | 'Z' => some "boolean"
  | 'B' => some "byte"
  | 'C' => some "char"
  | 'S' => some "short"
  | 'I' => some "int"
  | 'J' => some "long"
  | 'F' => some "float"
  | 'D' => some "double"
  | 'V' => some "void"
  | _ => none

/-- The name of an element type: whatever begins with the letter of a primitive type counts as that
type. -/
def elementName (cs : List Char) : List Char :=
  match cs with
  | 'L' :: _ =>
    ((cs.dropWhile (· = 'L')).reverse.dropWhile (· = ';')).reverse.map
      fun c => if c = '/' then '.' else c
  | c :: _ => (primitive? c).elim cs String.toList
  | [] => []

/-- The name of the type with the given signature. -/
def typeName (signature : String) : String :=
  let cs := signature.toList
  let element := cs.dropWhile (· = '[')
  let dimensions := cs.length - element.length
  String.ofList (elementName element ++ (List.replicate dimensions ['[', ']']).flatten)

/-- The tag of the values of a type: the first byte of its signature. -/
def valueTag (signature : String) : UInt8 := signature.toUTF8.data.toList.headD 86

end Debugger.Wire.Signature
