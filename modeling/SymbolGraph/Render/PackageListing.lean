import SymbolGraph.Render.Markup

/-! # Packages as a search lists them -/
namespace SymbolGraph

structure PackageListing where
  name : String
  synopsis : Option String := none
  latestVersion : Option String := none
  installedVersions : List String := []
  homepage : Option String := none
  license : Option String := none
  deriving DecidableEq, Repr

namespace PackageListing

structure Detail where
  label : String
  value : String
  deriving DecidableEq, Repr

def details (p : PackageListing) : List Detail :=
  (p.latestVersion.map fun v => ⟨"Last version", v⟩).toList ++
    (if p.installedVersions.isEmpty then []
      else [⟨"Installed versions", ", ".intercalate p.installedVersions⟩]) ++
    (p.homepage.map fun v => ⟨"Homepage", v⟩).toList ++
    (p.license.map fun v => ⟨"License", v⟩).toList

/-- The name, the synopsis and the details in lines. -/
def summary (p : PackageListing) : String :=
  let synopsis :=
    match p.synopsis with
    | some synopsis => [synopsis, ""]
    | none => []
  "\n".intercalate (p.name :: "" :: synopsis ++ p.details.map fun d => d.label ++ ": " ++ d.value)

/-! ## Cards as text -/

/-- A detail with its label as it stands; a homepage is linked. -/
def Detail.html (d : Detail) : String :=
  let value :=
    if d.label = "Homepage" then
      "<a href=\"" ++ Escape.quoted d.value ++ "\">" ++ Escape.text d.value ++ "</a>"
    else Escape.text d.value
  "<span class=\"comment\">" ++ d.label ++ ":</span> " ++ value

def hoverText (p : PackageListing) : String := Id.run do
  let mut out := "<p><span class=\"type\">" ++ Escape.text p.name ++ "</span></p>"
  if let some synopsis := p.synopsis then
    out := out ++ ("<p><span class=\"docs\">" ++ Html.ofDocs synopsis ++ "</span></p>")
  let lines := p.details.map Detail.html
  if !lines.isEmpty then
    out := out ++ ("<p>" ++ "<br>".intercalate lines ++ "</p>")
  return out

/-! ## Cards as trees -/

open Markup

def Detail.markup (d : Detail) : Markup :=
  span .comment (text d.label ++ text ":") ++ text " " ++
    if d.label = "Homepage" then anchor d.value (text d.value) else text d.value

def detailsParagraph (p : PackageListing) : Markup :=
  if p.details.isEmpty then empty else paragraph (join lineBreak (p.details.map Detail.markup))

def hoverCard (p : PackageListing) : Markup :=
  paragraph (span .typeName (text p.name)) ++ docsParagraph p.synopsis ++ p.detailsParagraph

/-- The labels are written alike with and without escaping. -/
theorem text_label {p : PackageListing} {d : Detail} (h : d ∈ p.details) : Escape.text d.label = d.label := by
  simp only [details, List.mem_append, Option.mem_toList, Option.map_eq_some_iff] at h
  rcases h with ((⟨v, -, rfl⟩ | h) | ⟨v, -, rfl⟩) | ⟨v, -, rfl⟩
  · cbv
  · split at h
    · exact absurd h (by simp)
    · rw [List.mem_singleton.1 h]
      cbv
  · cbv
  · cbv

theorem render_label {d : Detail} (h : Escape.text d.label = d.label) :
    (span .comment (text d.label ++ text ":") ++ text " ").render =
      "<span class=\"comment\">" ++ d.label ++ ":</span> " := by
  have hcolon : Escape.text ":" = ":" := by cbv
  have hblank : Escape.text " " = " " := by cbv
  have hclose : ":" ++ ("</span>" ++ " ") = ":</span> " := rfl
  calc (span .comment (text d.label ++ text ":") ++ text " ").render
      = Html.span "comment" (Escape.text d.label ++ Escape.text ":") ++ Escape.text " " := rfl
    _ = Html.span "comment" (d.label ++ ":") ++ " " := by rw [h, hcolon, hblank]
    _ = "<span class=\"comment\">" ++ (d.label ++ ":") ++ "</span>" ++ " " := rfl
    _ = "<span class=\"comment\">" ++ d.label ++ ":</span> " := by
      rw [← hclose]
      simp only [String.append_assoc]

theorem render_detail {p : PackageListing} {d : Detail} (h : d ∈ p.details) : d.markup.render = d.html := by
  have hvalue : (if d.label = "Homepage" then anchor d.value (text d.value) else text d.value).render =
      if d.label = "Homepage" then "<a href=\"" ++ Escape.quoted d.value ++ "\">" ++ Escape.text d.value ++ "</a>"
      else Escape.text d.value := by
    split <;> rfl
  exact congr (congrArg (· ++ ·) (render_label (text_label h))) hvalue

theorem render_detailsParagraph (p : PackageListing) : p.detailsParagraph.render =
    if (p.details.map Detail.html).isEmpty then ""
    else "<p>" ++ "<br>".intercalate (p.details.map Detail.html) ++ "</p>" := by
  have hlines : (p.details.map Detail.markup).map render = p.details.map Detail.html := by
    rw [List.map_map]
    exact List.map_congr_left fun d hd => render_detail hd
  rw [detailsParagraph, List.isEmpty_map]
  split
  · rfl
  · rw [render_paragraph, render_join, hlines, render_lineBreak]

/-- The card is the rendering of a tree. -/
theorem render_hoverCard (p : PackageListing) : p.hoverCard.render = p.hoverText := by
  have hname : (paragraph (span .typeName (text p.name))).render =
      "<p><span class=\"type\">" ++ Escape.text p.name ++ "</span></p>" := Html.paragraph_span "type" _
  have hdocs (docs : String) : (docsParagraph (some docs)).render =
      "<p><span class=\"docs\">" ++ Html.ofDocs docs ++ "</span></p>" := by
    rw [render_docsParagraph]
    exact Html.paragraph_span "docs" _
  rw [hoverCard, render_append, render_append, hname, render_detailsParagraph]
  unfold hoverText
  cases p.synopsis with
  | none =>
    by_cases h : (p.details.map Detail.html).isEmpty <;> simp [h, docsParagraph]
  | some synopsis =>
    by_cases h : (p.details.map Detail.html).isEmpty <;> simp [h, hdocs]

end PackageListing
end SymbolGraph
