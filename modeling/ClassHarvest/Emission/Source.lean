import ClassHarvest.CSharp.Literal

/-!
# Generated source text

A generated file declares the marker once more, with one method that gives class names: an array of
literals, or the union of what other methods give.
-/

namespace ClassHarvest.Emission

open CSharp

/-- Lines of text, each with its end. -/
def unlines (lines : List Text) : Text :=
  lines.flatMap (· ++ [('\n' : CodePoint)])

/-- A line behind some spaces. -/
def indented (width : Nat) (line : Text) : Text :=
  List.replicate width (' ' : CodePoint) ++ line

/-- The comment at the head of every generated file. -/
def header : List Text := [
  "// <auto-generated>",
  "//     Generated by cssjit. Changes to this file are lost on the next run.",
  "// </auto-generated>"]

/-- What the method with all class names does. -/
def combinedSummary : Text :=
  "Returns every CSS class discovered in markup, render trees and marked calls."

/-- The class that a file declares. -/
structure Target where
  /-- The namespace around it. -/
  «namespace» : Text
  /-- Its name. -/
  typeName : Text
  /-- Its modifiers. -/
  modifiers : Text
deriving DecidableEq, Repr

/-- A file that declares the class with some lines inside it. -/
def Target.wrap (target : Target) (body : List Text) : Text :=
  unlines (header ++ [
    "namespace " ++ target.namespace,
    "\x7b",
    indented 4 (target.modifiers ++ " class " ++ target.typeName),
    indented 4 "\x7b"] ++ body ++ [
    indented 4 "\x7d",
    "\x7d"])

/-- A text in which the characters with a meaning in markup are written by name or number. -/
def markupEscaped (t : Text) : Text :=
  t.flatMap fun c =>
    match c.ascii with
    | '&' => Text.ofString "&amp;"
    | '<' => Text.ofString "&lt;"
    | '>' => Text.ofString "&gt;"
    | '"' => Text.ofString "&#34;"
    | '\'' => Text.ofString "&#39;"
    | _ => [c]

/-! ## Accessors -/

/-- A method that gives an array of literals. -/
structure Accessor where
  /-- The class that it belongs to. -/
  target : Target
  /-- The name of the method. -/
  name : Text
  /-- Who may call it. -/
  visibility : Text
  /-- What it gives. -/
  literals : List Text
  /-- What it does; the empty text if nothing is said. -/
  summary : Text := []
  /-- Remarks on it. -/
  remarks : List Text := []
deriving DecidableEq, Repr

/-- The literals of an array, with a comma behind each but the last. -/
def literalLines : List Text → List Text
  | [] => []
  | [last] => [Literal.encode last]
  | literal :: rest => (Literal.encode literal ++ [(',' : CodePoint)]) :: literalLines rest

/-- A comment for the documentation of a method. -/
def documentation (tag : Text) (lines : List Text) : List Text :=
  let open' : Text := "/// <" ++ tag ++ ">"
  let close : Text := "/// </" ++ tag ++ ">"
  open' :: lines.map (Text.ofString "/// " ++ ·) ++ [close]

namespace Accessor

/-- The head of the method, up to its value. -/
def head (accessor : Accessor) : Text :=
  accessor.visibility ++ " static string[] " ++ accessor.name ++ "() => "

/-- The lines with the value of the method. -/
def valueLines (accessor : Accessor) : List Text :=
  if accessor.literals.isEmpty then
    [indented 8 (accessor.head ++ Text.ofString "System.Array.Empty<string>();")]
  else
    [indented 8 (accessor.head ++ Text.ofString "new string[] \x7b")] ++
      (literalLines accessor.literals).map (indented 12) ++
      [indented 8 "\x7d;"]

/-- The comments in front of the method. -/
def comments (accessor : Accessor) : List Text :=
  (if accessor.summary.isEmpty then [] else documentation "summary" [accessor.summary]) ++
  (if accessor.remarks.isEmpty then []
    else documentation "remarks"
      (accessor.remarks.map fun line => markupEscaped line ++ Text.ofString "<br/>"))

/-- The file with the method. -/
def render (accessor : Accessor) : Text :=
  accessor.target.wrap (accessor.comments.map (indented 8) ++ accessor.valueLines)

end Accessor

/-! ## Combiners -/

/-- A method that gives the union of what other methods give. -/
structure Combiner where
  /-- The class that it belongs to. -/
  target : Target
  /-- The name of the method. -/
  name : Text
  /-- The other methods. -/
  sources : List Text
deriving DecidableEq, Repr

/-- The lines of the method. -/
def Combiner.lines (combiner : Combiner) : List Text :=
  (documentation "summary" [combinedSummary]).map (indented 8) ++ [
    indented 8 ("public static string[] " ++ combiner.name ++ "()"),
    indented 8 "\x7b",
    indented 12 ("var output = new System.Collections.Generic.HashSet<string>" ++
      Text.ofString "(System.StringComparer.Ordinal);")] ++
    combiner.sources.map (fun source =>
      indented 12 ("output.UnionWith(" ++ source ++ "());")) ++ [
    indented 12 "return System.Linq.Enumerable.ToArray(output);",
    indented 8 "\x7d"]

/-- The file with the method. -/
def Combiner.render (combiner : Combiner) : Text :=
  combiner.target.wrap combiner.lines

end ClassHarvest.Emission
