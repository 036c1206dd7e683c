import DeckPress.Proofs.SlideContents
import DeckPress.Proofs.Transcripts

/-!
# Addresses that are taken as they are

A drawing shows the images that its deck wishes for, in their order: an image whose query is an
address is taken as it is, and the resolver is asked once for any other one. As the topic of the
deck or the title of the slide is the query for an image without a text of its own, it is also taken
for the image where it is an address. Other than that, an image is taken as it is only if its own
text is an address.
-/
namespace DeckPress

open Attempt Image

def Drawing.Slide.shown {α : Type} (s : Drawing.Slide α) : List (Int × Image.Reference) :=
  s.pictures.map fun p => (s.index, ⟨p.url, p.isFallback⟩)

def Drawing.shown {α : Type} (g : Drawing α) : List (Int × Image.Reference) :=
  g.slides.flatMap Slide.shown

/-- An image, and what the resolver was asked for it. -/
structure Finding where
  image : Image.Reference
  log : Transcript

theorem zipWith_eq_map_right {α β γ : Type} {f : α → β → γ} {g : β → γ} {as : List α} {bs : List β}
    (hl : as.length = bs.length) (h : ∀ a ∈ as, ∀ b, f a b = g b) :
    List.zipWith f as bs = bs.map g := by
  induction as generalizing bs with
  | nil =>
    rw [List.length_eq_zero_iff.1 hl.symm]
    rfl
  | cons a as ih =>
    obtain ⟨b, bs, rfl⟩ := List.exists_cons_of_length_eq_add_one hl.symm
    have htail := ih (Nat.succ.inj hl) fun a ha => h a (List.mem_cons_of_mem _ ha)
    rw [List.zipWith_cons_cons, List.map_cons, h a List.mem_cons_self, htail]

namespace Compiler

variable {α σ τ : Type}

/-- The image for a wish: the address that the query is, or what becomes of an answer. -/
inductive Finds (c : Compiler α σ) : Wish → Finding → Prop
  | taken {w : Wish} (h : w.IsDirect) : Finds c w ⟨⟨Text.trimmed w.query, false⟩, []⟩
  | asked {w : Wish} {a : Except Search.Fault Answer} {image : Image.Reference}
      (h : ¬w.IsDirect) (ha : c.conclude w a = .ok image) : Finds c w ⟨image, [(w.request, a)]⟩

theorem traverses_finds {c : Compiler α σ} {r : Resolver τ} {ws : List Wish}
    {images : List Image.Reference} {u u' : τ × Transcript}
    (h : Traverses (c.withResolver r.recorded).lookUp ws u images u') :
    ∃ fs, List.Forall₂ c.Finds ws fs ∧ images = fs.map Finding.image ∧
      u'.2 = u.2 ++ fs.flatMap Finding.log := by
  induction h with
  | nil u => exact ⟨[], .nil, rfl, (List.append_nil _).symm⟩
  | @cons w ws image images u v u' head tail ih =>
    obtain ⟨fs, hfs, rfl, hlog⟩ := ih
    -- what the first wish adds to the transcript is kept with its image
    obtain ⟨f, hf, rfl, hv⟩ : ∃ f, c.Finds w f ∧ image = f.image ∧ v.2 = u.2 ++ f.log := by
      by_cases hw : w.IsDirect
      · rw [lookUp_of_direct _ hw] at head
        cases head
        exact ⟨_, .taken hw, rfl, (List.append_nil _).symm⟩
      · rw [outcome_lookUp_recorded c hw rfl] at head
        obtain ⟨hconclude, rfl⟩ := Prod.mk.inj head
        exact ⟨_, .asked hw hconclude, rfl, rfl⟩
    exact ⟨f :: fs, .cons hf hfs, rfl, by rw [hlog, hv, List.flatMap_cons, List.append_assoc]⟩

variable [Scalar α]

theorem compileSlide_shows {c : Compiler α σ} {topic : Option String} {total index : Nat}
    {s : Slide α} {t t' : σ} {out : Drawing.Slide α}
    (h : (c.compileSlide topic total index s).outcome t = (.ok out, t')) :
    ∃ images, Traverses c.lookUp (s.wishes topic index) t images t' ∧
      out.shown = List.zipWith (fun w i => ((w.slide : Int), i)) (s.wishes topic index) images := by
  obtain ⟨images, hneeds, his, hindex⟩ := compileSlide_eq_ok.1 h
  have himages : Traverses c.lookUp (s.wishes topic index) t images t' := by
    rw [← outcome_mapM_eq_ok, mapM_lookUp]
    exact outcome_mapM_eq_ok.2 hneeds
  refine ⟨images, himages, ?_⟩
  obtain ⟨_, is⟩ := out
  cases hindex
  obtain ⟨theme, titled, boxes, ts, hboxes, rfl⟩ := assemble_stack his topic
  have hboxes' : boxes.length = images.length := by rw [hboxes, hneeds.forall₂.length_eq]
  have hslides : ∀ w ∈ s.wishes topic index, ∀ i : Image.Reference,
      ((w.slide : Int), i) = ((index : Int), i) := by
    intro w hw i
    rw [Slide.slide_of_mem_wishes hw]
  -- whatever the images are paired with, what is left are they with the index of the slide
  calc Drawing.Slide.shown _
      = List.zipWith (fun _ i => ((index : Int), i)) boxes images := by
        rw [Drawing.Slide.shown, pictures_stack, List.map_zipWith]
        rfl
    _ = images.map ((index : Int), ·) := zipWith_eq_map_right hboxes' fun _ _ _ => rfl
    _ = _ := (zipWith_eq_map_right himages.forall₂.length_eq hslides).symm

theorem compile_shows {c : Compiler α σ} {d : Deck α} {t t' : σ} {g : Drawing α}
    (h : (c.compile d).outcome t = (.ok g, t')) :
    ∃ images, Traverses c.lookUp d.wishes t images t' ∧
      g.shown = List.zipWith (fun w i => ((w.slide : Int), i)) d.wishes images := by
  obtain ⟨-, -, hslides⟩ := compile_eq_ok.1 h
  rw [Deck.wishes, Drawing.shown]
  generalize g.slides = outs at hslides ⊢
  generalize d.slides.zipIdx = ss at hslides ⊢
  clear h
  induction hslides with
  | nil t => exact ⟨[], .nil t, rfl⟩
  | cons head _ ih =>
    obtain ⟨images, himages, hshown⟩ := compileSlide_shows head
    obtain ⟨images', himages', hshown'⟩ := ih
    refine ⟨images ++ images', himages.append himages', ?_⟩
    rw [List.flatMap_cons, List.flatMap_cons, hshown, hshown',
      List.zipWith_append himages.forall₂.length_eq]

end Compiler

/-- Only an address that is the own text of a wish is taken as it is, and where a wish has no text
the resolver is asked for what stands in for it. -/
def Wish.TakesOwn (w : Wish) (f : Finding) : Prop :=
  (f.log = [] → isDirectUrl w.own = true ∧ f.image = ⟨Text.trimmed w.own, false⟩) ∧
    (w.own = "" → f.log.asked = [⟨w.standIn, w.slide, w.text⟩])

namespace Compiler

variable {α σ τ : Type}

theorem Finds.takesOwn_iff {c : Compiler α σ} {w : Wish} {f : Finding} (h : c.Finds w f) :
    w.TakesOwn f ↔ (w.own = "" → ¬isDirectUrl w.standIn = true) := by
  -- only a wish without a text of its own can have a query that is not its text
  by_cases hown : w.own = ""
  · have hquery : w.query = w.standIn := if_pos hown
    cases h with
    | taken h =>
      have hdirect : isDirectUrl w.standIn = true := hquery ▸ h
      exact iff_of_false (fun htakes => nomatch htakes.2 hown) fun hn => hn hown hdirect
    | asked h _ =>
      have hrequest : w.request = ⟨w.standIn, w.slide, w.text⟩ := by rw [Wish.request, hquery]
      exact iff_of_true ⟨nofun, fun _ => congrArg (fun q => [q]) hrequest⟩ fun _ => hquery ▸ h
  · have hquery : w.query = w.own := if_neg hown
    refine iff_of_true ⟨fun hlog => ?_, fun h => absurd h hown⟩ fun h => absurd h hown
    cases h with
    | taken h => exact ⟨hquery ▸ h, by rw [hquery]⟩
    | asked _ _ => cases hlog

theorem forall₂_takesOwn_iff {c : Compiler α σ} {ws : List Wish} {fs : List Finding}
    (h : List.Forall₂ c.Finds ws fs) :
    List.Forall₂ Wish.TakesOwn ws fs ↔ ∀ w ∈ ws, w.own = "" → ¬isDirectUrl w.standIn = true := by
  induction h with
  | nil => simp
  | cons hf _ ih => rw [List.forall₂_cons, List.forall_mem_cons, hf.takesOwn_iff, ih]

/-- The images that a drawing shows are addresses that queries are, and what the resolver was asked
for, in the order of the wishes. Only addresses that are own texts are taken as they are, if and
only if nothing that stands in for an empty text is an address. -/
theorem compile_takes_own_iff [Scalar α] {c : Compiler α σ} {r : Resolver τ} {d : Deck α}
    {t t' : τ} {log : Transcript} {g : Drawing α}
    (h : ((c.withResolver r.recorded).compile d).outcome (t, []) = (.ok g, t', log)) :
    ∃ fs, List.Forall₂ c.Finds d.wishes fs ∧
      g.shown = List.zipWith (fun w f => ((w.slide : Int), f.image)) d.wishes fs ∧
      log = fs.flatMap Finding.log ∧
      (List.Forall₂ Wish.TakesOwn d.wishes fs ↔
        ∀ w ∈ d.wishes, w.own = "" → ¬isDirectUrl w.standIn = true) := by
  obtain ⟨images, himages, hshown⟩ := compile_shows h
  obtain ⟨fs, hfs, rfl, hlog⟩ := traverses_finds himages
  refine ⟨fs, hfs, ?_, hlog, forall₂_takesOwn_iff hfs⟩
  rw [hshown, List.zipWith_map_right]

theorem compile_takes_own_riverDeck :
    let c : Compiler Float Bool := { canvas := .widescreen }
    ∃ d g t fs, Deck.parse riverDeck = .ok d ∧
      ((c.withResolver findsOnce.recorded).compile d).outcome (false, []) =
        (.ok g, t, fs.flatMap Finding.log) ∧
      g.shown = List.zipWith (fun w f => ((w.slide : Int), f.image)) riverWishes fs ∧
      List.Forall₂ Wish.TakesOwn riverWishes fs := by
  intro c
  obtain ⟨d, hp, hdec⟩ := exists_eq_ok_of_any parse_riverDeck
  obtain ⟨hd, hwishes⟩ := of_decide_eq_true hdec
  have hanswers : ∀ f, (c.withResolver findsOnce.recorded).resolver = some f → f.Answers := by
    rintro _ ⟨⟩ q ⟨found, log⟩
    exact ⟨_, _, rfl⟩
  obtain ⟨g, hg⟩ := compile_of_lenient (k := .widescreen) rfl hanswers hd rfl (false, [])
  obtain ⟨fs, -, hshown, hlog, htakes⟩ := compile_takes_own_iff (Prod.ext hg rfl)
  rw [hwishes] at hshown htakes
  have hrivers : ∀ w ∈ riverWishes, w.own = "" → ¬isDirectUrl w.standIn = true := by decide
  exact ⟨d, g, _, fs, hp, Prod.ext hg (Prod.ext rfl hlog), hshown, htakes.2 hrivers⟩

def linkedDeck : Json :=
  .obj [("topic", .str "https://example.com/x"),
    ("slides", .arr [.obj [("title", .str "A"), ("imageQuery", .str "")]])]

/-- The topic is an address and is taken for the image, without a request. -/
theorem topic_taken_for_image :
    ¬∀ (data : Json) (d : Deck Float) (g : Drawing Float) (t : Bool) (log : Transcript),
        Deck.parse data = .ok d →
          ((({ canvas := .standard } : Compiler Float Bool).withResolver findsOnce.recorded).compile
            d).outcome (false, []) = (.ok g, t, log) →
          ∀ w ∈ d.wishes, w.own = "" → ⟨w.standIn, w.slide, w.text⟩ ∈ log.asked := by
  intro h
  have hlinked : ((Deck.parse linkedDeck).toOption.any fun d =>
      let run := ((({ canvas := .standard } : Compiler Float Bool).withResolver
        findsOnce.recorded).compile d).outcome (false, [])
      decide (d.wishes = [⟨0, .query, "", "https://example.com/x", "A "⟩] ∧ run.1.isOk = true ∧
        run.2.2.asked = [])) = true := by
    decide +kernel
  obtain ⟨d, hp, hdec⟩ := exists_eq_ok_of_any hlinked
  obtain ⟨hwishes, hok, hasked⟩ := of_decide_eq_true hdec
  obtain ⟨g, hg⟩ := exists_eq_ok_of_isOk hok
  have hmem := h linkedDeck d g _ _ hp (Prod.ext hg rfl) _ (hwishes ▸ List.mem_singleton_self _) rfl
  rw [hasked] at hmem
  cases hmem

end Compiler

end DeckPress
