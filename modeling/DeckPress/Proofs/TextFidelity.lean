import DeckPress.Proofs.CanvasChoice
import DeckPress.Proofs.PresentationRun
import DeckPress.Proofs.SlideContents

/-!
# From the texts of a deck to the texts of a presentation

The source texts of a slide are told from the deck alone. A drawing holds each of them escaped
once, and a presentation holds the lines of each, in the order of the source.
-/
namespace DeckPress

open Attempt Layout

/-- The texts that a templated slide says, in the order of its text boxes. -/
def TemplatedSlide.sourceTexts (s : TemplatedSlide) : List String :=
  match Layout.ofOption s.layout with
  | .titleOnly => [if s.content = "" then s.title else s.title ++ "\n" ++ s.content]
  | .twoContent => [s.title, (splitPair s.content).1, (splitPair s.content).2]
  | .comparison => [s.title, "Before", "After", (splitPair s.content).1, (splitPair s.content).2]
  | _ => [s.title, s.content]

def Slide.sourceTexts {α : Type} : Slide α → List String
  | .generic objects => (objects.filterMap SlideObject.text?).map TextRegion.text
  | .templated s => s.sourceTexts

theorem TemplatedSlide.sourceTexts_of_titleOnly {s : TemplatedSlide}
    (h : Layout.ofOption s.layout = .titleOnly) : s.sourceTexts = [Compiler.loneText s] := by
  simp only [sourceTexts, h, Compiler.loneText, String.isEmpty_iff]

theorem TemplatedSlide.sourceTexts_of_titled {s : TemplatedSlide}
    (h : Layout.ofOption s.layout ≠ .titleOnly) :
    s.sourceTexts = s.title :: (Layout.ofOption s.layout).placedTexts s.content := by
  unfold sourceTexts
  cases hl : Layout.ofOption s.layout with
  | titleOnly => exact absurd hl h
  | _ => rfl

namespace Compiler

variable {α σ : Type} [Scalar α]

theorem Shows.map_text {c : Canvas α} {v : VerticalAlign} {rs : List (TextRegion α)}
    {ts : List (Drawing.Text α)} (h : List.Forall₂ (Shows c v) rs ts) :
    ts.map Drawing.Text.text = rs.map TextRegion.text :=
  (forall₂_eq_iff_map_eq.1 (h.imp fun _ _ hs => hs.text.symm)).symm

theorem text_of_draws {c : Canvas α} {out : Drawing.Slide α} {s : Slide α} (h : Draws c out s) :
    out.texts.map Drawing.Text.text = s.sourceTexts.map Text.sanitize := by
  cases s with
  | generic objects =>
    have ht := Shows.map_text (List.forall₂_map_left_iff.2 h.2)
    rw [ht, Slide.sourceTexts, List.map_map, List.map_map]
    rfl
  | templated s =>
    obtain ⟨-, h⟩ := h
    split at h
    · next hl =>
      obtain ⟨b, r, t, -, hr, hts, ht⟩ := h
      have hsource := regions_text hr
      rw [Slide.sourceTexts, TemplatedSlide.sourceTexts_of_titleOnly hl, hts]
      rw [List.map_singleton, ht.text, ← List.map_singleton (f := TextRegion.text), hsource]
      rfl
    · next hl =>
      obtain ⟨b, rs, title, rest, -, hr, hts, htitle, -, -, hrest⟩ := h
      rw [Slide.sourceTexts, TemplatedSlide.sourceTexts_of_titled hl, hts, List.map_cons,
        List.map_cons, htitle, Shows.map_text hrest, regions_text hr]

/-- The texts of a drawing, slide by slide. -/
theorem text_compile {c : Compiler α σ} {d : Deck α} {t t' : σ} {g : Drawing α}
    (h : (c.compile d).outcome t = (.ok g, t')) :
    g.slides.map (fun s => s.texts.map Drawing.Text.text) =
      d.slides.map fun s => s.sourceTexts.map Text.sanitize := by
  have hs := (compile_forall₂ h).imp fun p out (hp : _) => by
    obtain ⟨u, u', hu⟩ := hp
    exact (text_of_draws (compileSlide_draws hu).2.2.2).symm
  calc g.slides.map (fun s => s.texts.map Drawing.Text.text)
      = d.slides.zipIdx.map ((fun s => s.sourceTexts.map Text.sanitize) ∘ Prod.fst) :=
        (forall₂_eq_iff_map_eq.1 hs).symm
    _ = d.slides.map fun s => s.sourceTexts.map Text.sanitize := by
        rw [← List.map_map, List.zipIdx_map_fst]

end Compiler

theorem Presentation.linesOf_of_text {ts : List (Drawing.Text Float)} {ss : List String}
    (h : ts.map Drawing.Text.text = ss.map Text.sanitize) :
    ts.map linesOf = ss.map Text.plainTexts := by
  refine forall₂_eq_iff_map_eq.1 ((forall₂_eq_iff_map_eq.2 h).imp fun t s ht => ?_)
  rw [linesOf, ht, Text.lines_sanitize]

open Presentation in
/-- On a canvas that settings can choose, a deck with slides is compiled whatever its texts are, if
a missing image is no reason to fail. The drawing carries every source text escaped once, and
every presentation of it has the lines of every source text as the paragraphs of a text box. -/
theorem text_fidelity {σ : Type} {c : Compiler Float σ} {k : CanvasChoice}
    (hk : c.canvas = k.canvas) (hc : c.IsLenient) {data : Json} {d : Deck Float}
    (hd : Deck.parse data = .ok d) (hne : d.slides ≠ []) (t : σ) :
    ∃ g t', (c.compileData data).outcome t = (.ok g, t') ∧
      (g.slides.map fun s => s.texts.map Drawing.Text.text) =
        (d.slides.map fun s => s.sourceTexts.map Text.sanitize) ∧
      ∀ (τ : Type) (fetch : Fetcher τ) (u u' : τ) (p : Presentation),
        (ofDrawing fetch g).outcome u = (.ok p, u') →
          p.slides.map Slide.written =
            d.slides.map fun s => s.sourceTexts.map Text.plainTexts := by
  obtain ⟨g, t', hg⟩ := Compiler.compile_returns hc (Compiler.assembles_of_choice hk) hne t
  have htext := Compiler.text_compile hg
  refine ⟨g, t', ?_, htext, fun τ fetch u u' p hp => ?_⟩
  · refine outcome_bind_eq_ok.2 ⟨d, t, ?_, hg⟩
    rw [outcome_ofExcept, hd]
    rfl
  · rw [written_ofDrawing hp]
    refine forall₂_eq_iff_map_eq.1 ((forall₂_eq_iff_map_eq.2 htext).imp fun a b hab => ?_)
    exact linesOf_of_text hab

/-- A slide with quotes, line ends of two kinds, a backslash before a letter, and an invisible
character. -/
def quotedDeck : Json :=
  .arr [.obj [("title", .str "Say \"hi\""), ("content", .str "one\r\ntwo\\n\u200bthree"),
    ("imageQuery", .str "x")]]

def noPictures : Presentation.Fetcher Unit := fun _ => pure (.error (.system ""))

theorem text_fidelity_quotedDeck :
    ∃ g t' p u', (Compiler.plainCompiler.compileData quotedDeck).outcome () = (.ok g, t') ∧
      (Presentation.ofDrawing noPictures g).outcome () = (.ok p, u') ∧
      p.slides.map Presentation.Slide.written = [[["Say \"hi\""], ["one", "two\\nthree"]]] := by
  have hd : Deck.parse quotedDeck =
      .ok ⟨[.templated ⟨"Say \"hi\"", "one\r\ntwo\\n\u200bthree", none, some "x"⟩], none⟩ := rfl
  have hc : Compiler.plainCompiler.IsLenient := ⟨rfl, fun _ h => by cases h⟩
  obtain ⟨g, t', hg, -, hwritten⟩ :=
    text_fidelity (k := .standard) rfl hc hd (List.cons_ne_nil _ _) ()
  have hok : (match (Compiler.plainCompiler.compileData quotedDeck).outcome () with
      | (.ok g, _) => ((Presentation.ofDrawing noPictures g).outcome ()).1.isOk
      | (.error _, _) => false) = true := by decide +kernel
  rw [hg] at hok
  obtain ⟨p, u', hp⟩ := exists_of_isOk hok
  refine ⟨g, t', p, u', hg, hp, ?_⟩
  rw [hwritten Unit noPictures () u' p hp]
  decide +kernel

end DeckPress
