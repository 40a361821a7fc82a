import Mathlib.Data.List.Basic
import DocPress.Backend.Renderer
import DocPress.Proofs.Page.Margins
import DocPress.Proofs.Text.Escape

/-!
# DocPress.Proofs.Page.Geometry

The geometry of a page reaches a renderer in one way, and never in both:

1. A renderer that takes options gets page size, margins and outline there, each as it is in the
   layout. Its document says nothing of them.
2. A renderer that reads the style sheet finds page size and margins in the page rule. Its options
   say nothing of them.

The two documents differ in the page rule alone, which stands directly behind the line that opens
the style sheet.
-/

namespace DocPress.Page

open DocPress.Backend DocPress.Text

variable {body input output : String} {title : Option String} {layout l l' : Layout}

/-! ## The page rule -/

namespace PageSize

variable {size size' : PageSize} {rest rest' : String}

/-- Page sizes have different names. -/
theorem name_injective (h : size.name = size'.name) : size = size' := by
  cases size <;> cases size' <;> first | rfl | exact absurd h (by decide)

/-- No name holds a semicolon, so the first one ends it. -/
theorem not_mem_name (size : PageSize) : ';' ∉ size.name.toList := by
  cases size <;> decide

/-- A page size and what stands behind the semicolon can both be read off the text. -/
theorem name_append_inj (h : size.name ++ (";" ++ rest) = size'.name ++ (";" ++ rest')) :
    size = size' ∧ rest = rest' := by
  have hsemicolon (text : String) : (";" ++ text).toList = ';' :: text.toList := by
    rw [String.toList_append]
    rfl
  have hlists := congrArg String.toList h
  rw [String.toList_append, hsemicolon, String.toList_append, hsemicolon] at hlists
  have hname := congrArg (fun text => (text.splitOn ';').head?) hlists
  simp only [List.splitOn_append_cons_self_of_not_mem (not_mem_name _), List.head?_cons,
    Option.some.injEq] at hname
  rw [hname, List.append_cancel_left_eq, List.cons.injEq] at hlists
  exact ⟨name_injective (String.toList_injective hname), String.toList_injective hlists.2⟩

end PageSize

/-- The page rule tells page size and margins. -/
theorem pageRule_eq_iff (hl : l.margins.firstFault? = none)
    (hl' : l'.margins.firstFault? = none) :
    pageRule l = pageRule l' ↔ l.pageSize = l'.pageSize ∧ l.margins = l'.margins := by
  constructor
  · intro h
    have hend : ";\n            margin: " = ";" ++ "\n            margin: " := by decide
    unfold pageRule at h
    rw [hend] at h
    simp only [String.append_assoc] at h
    rw [String.append_right_inj] at h
    obtain ⟨hsize, hmargins⟩ := PageSize.name_append_inj h
    rw [String.append_right_inj, String.append_left_inj] at hmargins
    exact ⟨hsize, Margins.toCss_injective hl hl' hmargins⟩
  · rintro ⟨hsize, hmargins⟩
    unfold pageRule
    rw [hsize, hmargins]

/-! ## Documents -/

/-- The document up to the line that opens its style sheet; the title has no angle bracket in it. -/
theorem documentHead_eq (encoding : String) (title : Option String) :
    ∃ text, '<' ∉ text.toList ∧ documentHead encoding title =
      "<!DOCTYPE html>\n<html>\n<head>\n    <meta charset=\"" ++ encoding ++
        "\">\n    <title>" ++ text ++ "</title>\n" ++ "    <style>\n" := by
  refine ⟨replaceBody (title.getD ""), fun h => (ne_of_mem_replaceBody h).1 rfl, ?_⟩
  have hline : "</title>\n    <style>\n" = "</title>\n" ++ "    <style>\n" := by decide
  unfold documentHead
  rw [hline, ← String.append_assoc]

/-- A document for a renderer that has options holds nothing of the geometry. -/
theorem wrapDocument_options (body : String) (layout : Layout) (title : Option String) :
    wrapDocument body .options layout title =
      documentHead layout.encoding title ++ (bodyCss ++ documentTail body) := by
  unfold wrapDocument pageCss
  rw [String.append_assoc]

/-- The page rule stands in front of the other rules. -/
theorem wrapDocument_css (body : String) (layout : Layout) (title : Option String) :
    wrapDocument body .css layout title =
      documentHead layout.encoding title ++ pageRule layout ++ (bodyCss ++ documentTail body) := by
  unfold wrapDocument pageCss
  simp only [String.append_assoc]

/-- The style sheet of a document tells page size and margins, and nothing else of the layout. -/
theorem wrapDocument_css_eq_iff (body : String) (title : Option String)
    (hencoding : l.encoding = l'.encoding) (hl : l.margins.firstFault? = none)
    (hl' : l'.margins.firstFault? = none) :
    wrapDocument body .css l title = wrapDocument body .css l' title ↔
      l.pageSize = l'.pageSize ∧ l.margins = l'.margins := by
  rw [wrapDocument_css, wrapDocument_css, hencoding, String.append_left_inj,
    String.append_right_inj, pageRule_eq_iff hl hl']

/-! ## Options -/

/-- The arguments tell page size, margins and whether there is an outline. -/
theorem arguments_wkhtmltopdf_eq_iff (input output : String)
    (hencoding : l.encoding = l'.encoding) :
    Renderer.arguments .wkhtmltopdf l input output =
        Renderer.arguments .wkhtmltopdf l' input output ↔
      l.pageSize = l'.pageSize ∧ l.margins = l'.margins ∧ l.outline = l'.outline := by
  have houtline : (if l.outline then "--outline" else "--no-outline") =
      (if l'.outline then "--outline" else "--no-outline") ↔ l.outline = l'.outline := by
    cases l.outline <;> cases l'.outline <;> decide
  have hsize : l.pageSize.name = l'.pageSize.name ↔ l.pageSize = l'.pageSize :=
    ⟨PageSize.name_injective, congrArg _⟩
  have hmargins : l.margins = l'.margins ↔ l.margins.top = l'.margins.top ∧
      l.margins.right = l'.margins.right ∧ l.margins.bottom = l'.margins.bottom ∧
      l.margins.left = l'.margins.left := by
    rw [← Margins.mk.injEq]
  simp only [Renderer.arguments, List.cons.injEq, hencoding, houtline, hsize, hmargins]
  tauto

/-! ## Both ways -/

/-- What a renderer is told of the geometry of a page, and where. -/
theorem geometry_of_renderers (body input output : String) (title : Option String) (l l' : Layout)
    (hencoding : l.encoding = l'.encoding) (hl : l.margins.firstFault? = none)
    (hl' : l'.margins.firstFault? = none) :
    -- By options: the document is the same for all layouts, the options tell them apart.
    wrapDocument body .options l title = wrapDocument body .options l' title ∧
    (Renderer.arguments .wkhtmltopdf l input output =
        Renderer.arguments .wkhtmltopdf l' input output ↔
      l.pageSize = l'.pageSize ∧ l.margins = l'.margins ∧ l.outline = l'.outline) ∧
    -- By the style sheet: the other way around.
    Renderer.arguments .weasyPrint l input output = Renderer.arguments .weasyPrint l' input output ∧
    (wrapDocument body .css l title = wrapDocument body .css l' title ↔
      l.pageSize = l'.pageSize ∧ l.margins = l'.margins) ∧
    -- The shorthand of the margins is read as just these margins.
    Margins.ofShorthand? l.margins.toCss = some l.margins ∧
    (l.margins.isUniform = true → l'.margins.isUniform = false →
      l.margins.toCss ≠ l'.margins.toCss) ∧
    -- One document is the other one with the page rule behind the line that opens the style sheet.
    ∀ layout : Layout, ∃ text rest, '<' ∉ text.toList ∧
      let before := "<!DOCTYPE html>\n<html>\n<head>\n    <meta charset=\"" ++ layout.encoding ++
        "\">\n    <title>" ++ text ++ "</title>\n" ++ "    <style>\n"
      wrapDocument body .options layout title = before ++ rest ∧
        wrapDocument body .css layout title = before ++ pageRule layout ++ rest := by
  refine ⟨?_, arguments_wkhtmltopdf_eq_iff input output hencoding, ?_,
    wrapDocument_css_eq_iff body title hencoding hl hl', Margins.ofShorthand?_toCss hl, ?_, ?_⟩
  · rw [wrapDocument_options, wrapDocument_options, hencoding]
  · rw [Renderer.arguments, Renderer.arguments, hencoding]
  · intro huniform hnot hcss
    rw [Margins.toCss_injective hl hl' hcss, hnot] at huniform
    contradiction
  · intro layout
    obtain ⟨text, htext, hhead⟩ := documentHead_eq layout.encoding title
    refine ⟨text, bodyCss ++ documentTail body, htext, ?_, ?_⟩
    · rw [wrapDocument_options, hhead]
    · rw [wrapDocument_css, hhead]

/-- Letter paper with four different margins: the style sheet changes with them, the document for
options does not, and the shorthand gives the margins back. -/
theorem geometry_of_renderers_letter :
    let l : Layout := ⟨.letter, ⟨"1cm", "2.5cm", "3mm", "4in"⟩, "UTF-8", true⟩
    l.encoding = Layout.standard.encoding ∧ l.margins.firstFault? = none ∧
      Layout.standard.margins.firstFault? = none ∧
      wrapDocument "<p>x</p>" .css l (some "x") ≠
        wrapDocument "<p>x</p>" .css Layout.standard (some "x") ∧
      wrapDocument "<p>x</p>" .options l (some "x") =
        wrapDocument "<p>x</p>" .options Layout.standard (some "x") ∧
      Margins.ofShorthand? l.margins.toCss = some l.margins := by
  intro l
  have hencoding : l.encoding = Layout.standard.encoding := rfl
  have hl : l.margins.firstFault? = none := by decide +kernel
  have hstandard : Layout.standard.margins.firstFault? = none := by decide +kernel
  obtain ⟨hdocument, -, -, hcss, hread, -⟩ := geometry_of_renderers "<p>x</p>" "a.html" "a.pdf"
    (some "x") l .standard hencoding hl hstandard
  refine ⟨hencoding, hl, hstandard, fun hsame => ?_, hdocument, hread⟩
  exact absurd (hcss.1 hsame).1 (by decide)

end DocPress.Page
