import DocPress.Conversion.Config
import DocPress.Proofs.Document.Markup
import DocPress.Proofs.Document.SlugForm
import DocPress.Proofs.Page.Title
import DocPress.Proofs.Text.Entities

/-!
# DocPress.Proofs.Conversion.Escaping

What is escaped stays text, in the title of a document as in its tables of contents
(`escaped_stays_text`). All that stands in front of a title is known, as no setting of a
configuration is about the encoding (`encoding_of_ofSettings`).
-/

namespace DocPress.Conversion

open DocPress.Document DocPress.Page DocPress.Text

variable {config : Config} {settings : List Config.Setting}

/-! ## Configurations -/

/-- No setting is about the encoding. -/
theorem encoding_apply (config : Config) (setting : Config.Setting) :
    (config.apply setting).layout.encoding = config.layout.encoding := by
  cases setting <;> rfl

theorem encoding_foldl_apply (settings : List Config.Setting) (config : Config) :
    (settings.foldl Config.apply config).layout.encoding = config.layout.encoding := by
  induction settings generalizing config with
  | nil => rfl
  | cons setting settings ih => rw [List.foldl_cons, ih, encoding_apply]

/-- No setting is about the encoding, so that of a configuration is the standard one. -/
theorem encoding_of_ofSettings (h : Config.ofSettings settings = .ok config) :
    config.layout.encoding = "UTF-8" := by
  unfold Config.ofSettings Config.validate at h
  split at h
  · contradiction
  · obtain rfl := Except.ok.inj h
    exact encoding_foldl_apply settings .standard

/-! ## Text that stays text -/

/-- Escaping is exact and can be undone; so the title of a document is found in it, whatever it
holds, and the texts of headings have no part in the tags of a table of contents. -/
theorem escaped_stays_text :
    -- Text in attributes and text between tags, replaced one character after the other.
    (∀ text, EscapedWith attributeEntities text (replaceAttribute text) ∧
      EscapedWith bodyEntities text (replaceBody text)) ∧
    -- The title of a document, with all that a configuration can be told.
    (∀ settings config, Config.ofSettings settings = .ok config →
      config.layout.encoding = "UTF-8" ∧
      ∀ body flavor title, ∃ raw,
        titleText? (wrapDocument body flavor config.layout title) = some raw ∧
          decodeWith bodyEntities raw = (title.getD "").toList) ∧
    -- The texts of the headings in a table of contents, of which only the levels and ids count.
    (∀ hs hs' : List Heading,
      hs.map (fun h => (h.level, h.id)) = hs'.map (fun h => (h.level, h.id)) →
        markup (renderToc hs) = markup (renderToc hs')) ∧
    -- The ids, which are written without escaping, although they are made of the texts.
    ∀ mode events, ∀ h ∈ headingsOf mode events, ∀ id, h.id = some id →
      replaceAttribute id = id := by
  refine ⟨fun text => ⟨escapedWith_replaceAttribute text, escapedWith_replaceBody text⟩, ?_,
    fun hs hs' h => markup_renderToc h,
    fun mode events h hmem id hid => (isSlugText_of_mem hmem hid).replaceAttribute_eq⟩
  intro settings config hconfig
  have hencoding := encoding_of_ofSettings hconfig
  refine ⟨hencoding, fun body flavor title => ?_⟩
  exact ⟨_, titleText?_wrapDocument hencoding body flavor title,
    (escapedWith_replaceBody (title.getD "")).decoded⟩

end DocPress.Conversion
