import DeckPress.Proofs.SideBySide
import DeckPress.Proofs.SlideLayers

/-!
# What a slide owes to its neighbours

If the images depend on the requests alone, a compiled slide depends on its own model, on its
position, and on the topic. Of all other slides it only shows how many there are, and that only in
its decoration: whether it is the last one.
-/
namespace DeckPress

open Attempt

/-- The answer depends on the request alone, not on what was asked before. -/
def Image.Resolver.IsFunction {σ : Type} (r : Image.Resolver σ) : Prop :=
  ∃ f : Image.Request → Except Image.Search.Fault Image.Answer,
    ∀ (q : Image.Request) (t : σ), ((r q).outcome t).1 = f q

namespace Decoration

theorem ofPosition_of_lt {index total : Nat} (h : index + 1 < total) :
    ofPosition index total = if index = 0 then headerBar else accentLine := by
  have hlast : index + 1 ≠ total := by omega
  rw [ofPosition, if_neg hlast]

theorem ofPosition_last {index total : Nat} (hindex : index ≠ 0) (h : index + 1 = total) :
    ofPosition index total = footerBar := by
  rw [ofPosition, if_neg hindex, if_pos h]

end Decoration

namespace Compiler

variable {α σ : Type}

/-- From whatever two states it starts, a compilation finds the same images. -/
theorem looksUpLike_of_isFunction {c : Compiler α σ}
    (h : ∀ r, c.resolver = some r → r.IsFunction) :
    LooksUpLike (fun _ _ => True) (fun _ => False) c c where
  canvas := rfl
  palette := rfl
  resolve index n := by
    unfold resolve
    split
    · exact runsLike_pure _
    · split
      · exact runsLike_ofExcept _
      · next r hr =>
        obtain ⟨f, hf⟩ := h r hr
        have hanswer : RunsLike (fun _ _ => True) (fun _ => False) (r (n.request index))
            (r (n.request index)) := fun s t _ => .inr ⟨(hf _ s).trans (hf _ t).symm, trivial⟩
        exact (hanswer.adapt fun _ => id).bind fun a => runsLike_ofExcept _

variable [Scalar α]

/-- The number of slides is told by the decoration alone. -/
theorem Layers.exists_drawn (l : Layers α) (c : Canvas α) (p : Palette) (index : Nat)
    (refs : List Image.Reference) :
    ∃ background accent rest, ∀ total,
      let d := Decoration.ofPosition index total
      l.drawn c p index total refs =
        .background background :: .shape ⟨d, decorationBox c l.titled d, accent⟩ :: rest :=
  let t := l.theme p index 0
  let rest := (List.zipWith framed l.boxes refs).map Drawing.Instruction.picture ++
    (l.texts.map fun r => drawText c t l.boxes r.1 r.2).map .text
  ⟨t.background, t.accent, rest, fun _ => rfl⟩

theorem exists_drawn_of_compileSlide {c : Compiler α σ}
    (hc : ∀ r, c.resolver = some r → r.IsFunction) {topic : Option String} {total index : Nat}
    {s : Slide α} {t t' : σ} {out : Drawing.Slide α}
    (h : (c.compileSlide topic total index s).outcome t = (.ok out, t')) :
    ∃ (l : Layers α) (refs : List Image.Reference), ∀ n u,
      ((c.compileSlide topic n index s).outcome u).1 =
        .ok ⟨index, l.drawn c.canvas c.palette index n refs⟩ := by
  obtain ⟨refs, hrefs, his, -⟩ := compileSlide_eq_ok.1 h
  obtain ⟨l, -, hdrawn⟩ := exists_layers his
  refine ⟨l, refs, fun n u => ?_⟩
  have hlike : RunsLike (fun _ _ => True) (fun _ => False) ((s.needs topic).mapM (c.resolve index))
      ((s.needs topic).mapM (c.resolve index)) :=
    runsLike_mapM fun need _ => (looksUpLike_of_isFunction hc).resolve index need
  obtain ⟨_, hfalse, -⟩ | ⟨hresult, -⟩ := hlike t u trivial
  · exact hfalse.elim
  · rw [outcome_mapM_eq_ok.2 hrefs] at hresult
    obtain ⟨u', hu⟩ : ∃ u', ((s.needs topic).mapM (c.resolve index)).outcome u = (.ok refs, u') :=
      ⟨(((s.needs topic).mapM (c.resolve index)).outcome u).2, Prod.ext hresult.symm rfl⟩
    have hslide : (c.compileSlide topic n index s).outcome u =
        (.ok ⟨index, l.drawn c.canvas c.palette index n refs⟩, u') :=
      compileSlide_eq_ok.2 ⟨refs, outcome_mapM_eq_ok.1 hu, hdrawn n, rfl⟩
    rw [hslide]

section Decks

variable {c : Compiler α σ} (hc : ∀ r, c.resolver = some r → r.IsFunction) {d : Deck α}
  {t t' : σ} {g : Drawing α} (h : (c.compile d).outcome t = (.ok g, t'))
include hc h

theorem getElem?_compile {i : Nat} {s : Slide α} (hs : d.slides[i]? = some s) :
    ∃ (l : Layers α) (refs : List Image.Reference),
      (∀ n u, ((c.compileSlide d.topic n i s).outcome u).1 =
        .ok ⟨i, l.drawn c.canvas c.palette i n refs⟩) ∧
      g.slides[i]? = some ⟨i, l.drawn c.canvas c.palette i d.slides.length refs⟩ := by
  obtain ⟨hi, -⟩ := List.getElem?_eq_some_iff.1 hs
  have hout := List.getElem?_eq_getElem ((length_compile h).symm ▸ hi)
  obtain ⟨u, u', hslide⟩ := forall₂_zipIdx_getElem? (compile_forall₂ h) hs hout
  obtain ⟨l, refs, hdrawn⟩ := exists_drawn_of_compileSlide hc hslide
  refine ⟨l, refs, hdrawn, ?_⟩
  have hsame := hdrawn d.slides.length u
  rw [hslide, Except.ok.injEq] at hsame
  rw [hout, hsame]

theorem exists_layers_of_getElem?_eq {d' : Deck α} {u u' : σ} {g' : Drawing α}
    (h' : (c.compile d').outcome u = (.ok g', u')) (htopic : d.topic = d'.topic) {i : Nat}
    (hi : i < d.slides.length) (hs : d.slides[i]? = d'.slides[i]?) :
    ∃ (l : Layers α) (refs : List Image.Reference),
      g.slides[i]? = some ⟨i, l.drawn c.canvas c.palette i d.slides.length refs⟩ ∧
      g'.slides[i]? = some ⟨i, l.drawn c.canvas c.palette i d'.slides.length refs⟩ := by
  have hsome := List.getElem?_eq_getElem hi
  obtain ⟨l, refs, hdrawn, hg⟩ := getElem?_compile hc h hsome
  obtain ⟨l', refs', hdrawn', hg'⟩ := getElem?_compile hc h' (hs.symm.trans hsome)
  refine ⟨l, refs, hg, ?_⟩
  have hsame := (hdrawn d'.slides.length u).symm.trans (htopic ▸ hdrawn' d'.slides.length u)
  rw [hg', Except.ok.inj hsame]

theorem getElem?_compile_eq {d' : Deck α} {u u' : σ} {g' : Drawing α}
    (h' : (c.compile d').outcome u = (.ok g', u')) (htopic : d.topic = d'.topic)
    (hlength : d.slides.length = d'.slides.length) {i : Nat}
    (hs : d.slides[i]? = d'.slides[i]?) : g.slides[i]? = g'.slides[i]? := by
  by_cases hi : i < d.slides.length
  · obtain ⟨l, refs, hg, hg'⟩ := exists_layers_of_getElem?_eq hc h h' htopic hi hs
    rw [hg, hg', hlength]
  · have hlength' := length_compile h'
    rw [List.getElem?_eq_none (by have := length_compile h; omega),
      List.getElem?_eq_none (by omega)]

end Decks

/-- If images depend on the requests alone, a compiled slide depends on its own model, on its
position and the topic, and on nothing else of decks of one length. Slides that are appended leave
all slides as they are but the one that was last, and of that one they change the decoration only:
it is no longer a bar below, but a line. -/
theorem compiled_slides_are_local {c : Compiler α σ}
    (hc : ∀ r, c.resolver = some r → r.IsFunction) {d d' : Deck α} (htopic : d.topic = d'.topic)
    {t t' u u' : σ} {g g' : Drawing α} (h : (c.compile d).outcome t = (.ok g, t'))
    (h' : (c.compile d').outcome u = (.ok g', u')) :
    (d.slides.length = d'.slides.length →
      ∀ i : Nat, d.slides[i]? = d'.slides[i]? → g.slides[i]? = g'.slides[i]?) ∧
    ∀ more, more ≠ [] → 2 ≤ d.slides.length → d'.slides = d.slides ++ more →
      (∀ i : Nat, i + 1 < d.slides.length → g.slides[i]? = g'.slides[i]?) ∧
      ∀ last : Nat, last + 1 = d.slides.length →
        ∃ background shape shape' rest,
          g.slides[last]? = some ⟨last, .background background :: .shape shape :: rest⟩ ∧
          g'.slides[last]? = some ⟨last, .background background :: .shape shape' :: rest⟩ ∧
          shape.kind = .footerBar ∧ shape'.kind = .accentLine ∧ shape.color = shape'.color := by
  refine ⟨fun hlength i hs => getElem?_compile_eq hc h h' htopic hlength hs, ?_⟩
  intro more hmore hd happend
  have hlength' : d.slides.length < d'.slides.length := by
    have := List.length_pos_iff.2 hmore
    rw [happend, List.length_append]
    omega
  have hagree : ∀ i < d.slides.length, d.slides[i]? = d'.slides[i]? := fun i hi => by
    rw [happend, List.getElem?_append_left hi]
  constructor
  · intro i hi
    have hi' : i < d.slides.length := by omega
    obtain ⟨l, refs, hg, hg'⟩ := exists_layers_of_getElem?_eq hc h h' htopic hi' (hagree i hi')
    obtain ⟨background, accent, rest, hdrawn⟩ := l.exists_drawn c.canvas c.palette i refs
    have hsame : Decoration.ofPosition i d.slides.length = .ofPosition i d'.slides.length := by
      rw [Decoration.ofPosition_of_lt hi, Decoration.ofPosition_of_lt (by omega)]
    rw [hg, hg', hdrawn, hdrawn, hsame]
  · intro last hlast
    have hi : last < d.slides.length := by omega
    obtain ⟨l, refs, hg, hg'⟩ := exists_layers_of_getElem?_eq hc h h' htopic hi (hagree last hi)
    obtain ⟨background, accent, rest, hdrawn⟩ := l.exists_drawn c.canvas c.palette last refs
    have hfirst : last ≠ 0 := by omega
    have hline : Decoration.ofPosition last d'.slides.length = .accentLine := by
      rw [Decoration.ofPosition_of_lt (by omega), if_neg hfirst]
    have hbar := Decoration.ofPosition_last hfirst hlast
    rw [hdrawn] at hg hg'
    exact ⟨background, _, _, rest, hg, hg', hbar, hline, rfl⟩

/-- Finds an image for each request and counts the requests, but does not look at the count. -/
def countingCompiler : Compiler Float Nat where
  canvas := .standard
  resolver := some fun q count =>
    let url := "https://images.example/" ++ q.query ++ "/" ++ toString q.slide
    (.ok (.found ⟨url, false⟩), count + 1)

def lakeDeck (first last : TemplatedSlide) (more : List (Slide Float)) : Deck Float where
  slides :=
    [.templated first, .templated ⟨"Lakes", "left|right", some "comparison", some "a lake"⟩,
      .templated last] ++ more
  topic := some "waters"

theorem compiled_slides_are_local_lakeDeck :
    let a := lakeDeck ⟨"One", "", none, none⟩ ⟨"Three", "", none, some "a hill"⟩ []
    let b := lakeDeck ⟨"Uno", "", some "titleOnly", some ""⟩ ⟨"Tre", "", none, none⟩ []
    let a' := lakeDeck ⟨"One", "", none, none⟩ ⟨"Three", "", none, some "a hill"⟩
      [.templated ⟨"Four", "", none, none⟩]
    ∃ ga gb ga' t t' t'', (countingCompiler.compile a).outcome 0 = (.ok ga, t) ∧
      (countingCompiler.compile b).outcome 7 = (.ok gb, t') ∧
      (countingCompiler.compile a').outcome 0 = (.ok ga', t'') ∧
      ga.slides[1]? = gb.slides[1]? ∧ ga.slides[1]? = ga'.slides[1]? ∧
      ∃ background shape shape' rest,
        ga.slides[2]? = some ⟨2, .background background :: .shape shape :: rest⟩ ∧
        ga'.slides[2]? = some ⟨2, .background background :: .shape shape' :: rest⟩ ∧
        shape.kind = .footerBar ∧ shape'.kind = .accentLine ∧ shape.color = shape'.color := by
  intro a b a'
  have hfunction : ∀ r, countingCompiler.resolver = some r → r.IsFunction := by
    rintro r ⟨⟩
    exact ⟨_, fun q t => rfl⟩
  have ha : ((countingCompiler.compile a).outcome 0).1.isOk = true := by decide +kernel
  have hb : ((countingCompiler.compile b).outcome 7).1.isOk = true := by decide +kernel
  have ha' : ((countingCompiler.compile a').outcome 0).1.isOk = true := by decide +kernel
  obtain ⟨ga, t, hga⟩ := exists_of_isOk ha
  obtain ⟨gb, t', hgb⟩ := exists_of_isOk hb
  obtain ⟨ga', t'', hga'⟩ := exists_of_isOk ha'
  have htopic : a.topic = b.topic := rfl
  have htopic' : a.topic = a'.topic := rfl
  obtain ⟨hneighbours, -⟩ := compiled_slides_are_local hfunction htopic hga hgb
  obtain ⟨-, happended⟩ := compiled_slides_are_local hfunction htopic' hga hga'
  obtain ⟨hearlier, hlast⟩ := happended [.templated ⟨"Four", "", none, none⟩] (List.cons_ne_nil _ _)
    (by decide) rfl
  exact ⟨ga, gb, ga', t, t', t'', hga, hgb, hga', hneighbours rfl 1 rfl, hearlier 1 (by decide),
    hlast 2 rfl⟩

end Compiler

end DeckPress
