import SymbolGraph.Render.Plain
import SymbolGraph.Render.TypeToken

/-! # Markup for declarations, shown under the pointer -/
namespace SymbolGraph

/-- Where documentation is linked to, and how far comment lines are indented. -/
structure HoverOptions where
  docsBase : String := "http://hackage.haskell.org/package"
  commentIndent : Nat := 4
  deriving DecidableEq, Repr

namespace HoverOptions

def trimmedBase (o : HoverOptions) : String :=
  String.ofList (o.docsBase.toList.reverse.dropWhile (· == '/')).reverse

/-- The address of a module's documentation; dots of the module's name become hyphens. -/
def moduleDocs (o : HoverOptions) (packageId moduleName : String) : String :=
  o.trimmedBase ++ "/" ++ packageId ++ "/docs/" ++
    String.ofList (moduleName.toList.map fun c => if c = '.' then '-' else c) ++ ".html"

open Markup

/-- The text of the indentation; one of `2 ^ 63` bytes or more cannot be written. -/
def indentText? (o : HoverOptions) : Option String :=
  if blankText.utf8ByteSize * o.commentIndent < Nat.pow 2 63 then some (blanks o.commentIndent) else none

/-! ## Cards as text -/

def moduleLinkText (o : HoverOptions) (m : Module) : String :=
  let name := Escape.text m.name
  match m.location with
  | some (.source l) => Html.link (Location.source l).label name
  | some (.installed l) => Html.link (o.moduleDocs l.package.id m.name) name
  | _ => name

end HoverOptions

namespace SymbolTable

/-- Links what is written for a name to the place of the declaration, if it has one. -/
def linkedText (t : SymbolTable) (d : Declaration) (body : String) : String :=
  match t.jumpTarget? d with
  | some target => Html.link target body
  | none => body

/-- One line on a declaration, its name linked to its place. -/
def hoverLineText (t : SymbolTable) (d : Declaration) : String :=
  match d.kind with
  | .other => t.linkedText d (Html.span "function" (Escape.text d.name))
  | .function signature =>
    t.linkedText d (Html.span "function" (Escape.text d.name)) ++ " " ++ Html.span "operator" "::" ++ " " ++
      Html.ofType (Declaration.signatureText signature)
  | .typeLike flavour shape => Id.run do
    let mut parts := [Html.span "keyword" (Escape.text flavour.keyword)]
    if let some context := shape.contextText? then
      parts := parts ++ [Html.ofType context]
    parts := parts ++ [t.linkedText d (Html.span "type" (Escape.text d.name))]
    if !shape.args.isEmpty then
      parts := parts ++ [Html.ofType (" ".intercalate shape.args)]
    return " ".intercalate parts

/-- The line of a declaration with its imports and defining module, and its documentation. The indentation is
written first, so one that is too wide fails the card, whether it has comments or not. -/
def hoverText? (t : SymbolTable) (o : HoverOptions) (d : Declaration) : Option String := do
  let indent ← o.indentText?
  let mut out := "<p>"
  out := out ++ t.hoverLineText d
  if !d.importNames.isEmpty then
    let comment := "-- Imported from " ++ Escape.text (", ".intercalate d.importNames)
    out := out ++ ("<br>" ++ indent ++ Html.span "comment" comment)
  if let some m := t.definingModule? d then
    let comment := "-- Defined in " ++ o.moduleLinkText m
    out := out ++ ("<br>" ++ indent ++ Html.span "comment" comment)
  out := out ++ "</p>"
  if let some docs := d.docs then
    out := out ++ ("<p>" ++ Html.span "docs" (Html.ofDocs docs) ++ "</p>")
  return out

end SymbolTable

/-! ## Cards as trees -/

namespace HoverOptions
open Markup

def moduleLink (o : HoverOptions) (m : Module) : Markup :=
  match m.location with
  | some (.source l) => anchor (Location.source l).label (text m.name)
  | some (.installed l) => anchor (o.moduleDocs l.package.id m.name) (text m.name)
  | _ => text m.name

def commentLine (o : HoverOptions) (body : Markup) : Markup :=
  lineBreak ++ indent o.commentIndent ++ span .comment body

def importComment (o : HoverOptions) (d : Declaration) : Markup :=
  if d.importNames.isEmpty then empty
  else o.commentLine (text "-- Imported from " ++ text (", ".intercalate d.importNames))

theorem render_moduleLink (o : HoverOptions) (m : Module) : (o.moduleLink m).render = o.moduleLinkText m := by
  unfold moduleLink moduleLinkText
  split <;> rfl

theorem render_commentLine (o : HoverOptions) {body : Markup} {s : String} (h : body.render = s) :
    (o.commentLine body).render = "<br>" ++ blanks o.commentIndent ++ Html.span "comment" s := by
  rw [commentLine, render_append, render_append, render_span, h]
  rfl

theorem render_importComment (o : HoverOptions) (d : Declaration) : (o.importComment d).render =
    if d.importNames.isEmpty then ""
    else "<br>" ++ blanks o.commentIndent ++
      Html.span "comment" ("-- Imported from " ++ Escape.text (", ".intercalate d.importNames)) := by
  have hcomment : Escape.text "-- Imported from " = "-- Imported from " := by cbv
  unfold importComment
  split
  · rfl
  · exact o.render_commentLine (congrArg (· ++ _) hcomment)

end HoverOptions

namespace SymbolTable
open Markup (text span anchor join ofType paragraph docsParagraph)

def linked (t : SymbolTable) (d : Declaration) (body : Markup) : Markup :=
  match t.jumpTarget? d with
  | some target => anchor target body
  | none => body

def hoverLine (t : SymbolTable) (d : Declaration) : Markup :=
  match d.kind with
  | .other => t.linked d (span .function (text d.name))
  | .function signature =>
    join (text " ")
      [t.linked d (span .function (text d.name)), span .operator (text "::"),
        ofType (Declaration.signatureText signature)]
  | .typeLike flavour shape =>
    join (text " ")
      (span .keyword (text flavour.keyword) :: (shape.contextText?.map ofType).toList ++
        t.linked d (span .typeName (text d.name)) :: (shape.argsText?.map ofType).toList)

def originComment (t : SymbolTable) (o : HoverOptions) (d : Declaration) : Markup :=
  match t.definingModule? d with
  | some m => o.commentLine (text "-- Defined in " ++ o.moduleLink m)
  | none => .empty

def hoverCard (t : SymbolTable) (o : HoverOptions) (d : Declaration) : Markup :=
  paragraph (t.hoverLine d ++ o.importComment d ++ t.originComment o d) ++ docsParagraph d.docs

theorem render_linked (t : SymbolTable) (d : Declaration) {body : Markup} {s : String} (h : body.render = s) :
    (t.linked d body).render = t.linkedText d s := by
  subst h
  unfold linked linkedText
  split <;> rfl

theorem render_linked_span (t : SymbolTable) (d : Declaration) (cls : SpanClass) :
    (t.linked d (span cls (text d.name))).render = t.linkedText d (Html.span cls.name (Escape.text d.name)) :=
  t.render_linked d rfl

theorem render_hoverLine (t : SymbolTable) (d : Declaration) : (t.hoverLine d).render = t.hoverLineText d := by
  have hblank : (text " ").render = " " := by cbv
  unfold hoverLine hoverLineText
  cases d.kind with
  | other => exact t.render_linked_span d .function
  | function signature =>
    have hcolons : Escape.text "::" = "::" := by cbv
    have hoperator : (span .operator (text "::")).render = Html.span "operator" "::" :=
      congrArg (Html.span "operator") hcolons
    simp only [Markup.render_join, List.map_cons, List.map_nil, render_linked_span, hoperator, hblank,
      Markup.render_ofType, String.intercalate_cons_cons, String.intercalate_singleton, String.append_assoc]
    rfl
  | typeLike flavour shape =>
    have htype (s : Option String) : (s.map ofType).toList.map Markup.render = (s.map Html.ofType).toList := by
      cases s <;> simp
    have hparts : ((span .keyword (text flavour.keyword) :: (shape.contextText?.map ofType).toList ++
          t.linked d (span .typeName (text d.name)) :: (shape.argsText?.map ofType).toList).map Markup.render) =
        Html.span "keyword" (Escape.text flavour.keyword) :: (shape.contextText?.map Html.ofType).toList ++
          t.linkedText d (Html.span "type" (Escape.text d.name)) :: (shape.argsText?.map Html.ofType).toList := by
      rw [List.map_append, List.map_cons, List.map_cons, htype, htype, render_linked_span]
      rfl
    rw [Markup.render_join, hparts, hblank, TypeShape.argsText?, TypeShape.argsText]
    cases hcontext : shape.contextText? with
    | none => by_cases hargs : shape.args.isEmpty <;> simp [hcontext, hargs]
    | some context => by_cases hargs : shape.args.isEmpty <;> simp [hcontext, hargs]

theorem render_originComment (t : SymbolTable) (o : HoverOptions) (d : Declaration) :
    (t.originComment o d).render =
      match t.definingModule? d with
      | some m => "<br>" ++ Markup.blanks o.commentIndent ++
          Html.span "comment" ("-- Defined in " ++ o.moduleLinkText m)
      | none => "" := by
  have hcomment : Escape.text "-- Defined in " = "-- Defined in " := by cbv
  unfold originComment
  split
  · refine o.render_commentLine ?_
    rw [Markup.render_append, Markup.render_text, hcomment, o.render_moduleLink]
  · rfl

/-- The card is the rendering of a tree, if its indentation can be written. -/
theorem hoverText?_eq (t : SymbolTable) (o : HoverOptions) (d : Declaration) :
    t.hoverText? o d = o.indentText?.map fun _ => (t.hoverCard o d).render := by
  have hcard : (t.hoverCard o d).render = "<p>" ++ (t.hoverLineText d ++ (o.importComment d).render ++
      (t.originComment o d).render) ++ "</p>" ++ (docsParagraph d.docs).render := by
    rw [← t.render_hoverLine]
    rfl
  rw [hcard, o.render_importComment, t.render_originComment, Markup.render_docsParagraph]
  unfold hoverText? HoverOptions.indentText?
  split
  -- each comment and the documentation are there or not
  · cases d.docs <;> cases t.definingModule? d <;> by_cases h : d.importNames.isEmpty <;>
      simp [h, String.append_assoc]
  · rfl

end SymbolTable
end SymbolGraph
