import DeckPress.Proofs.DrawnParts
import DeckPress.Proofs.TextFidelity

/-!
# Pictures that cannot be had

A picture that cannot be had, or that is none, is left out, and the rest of its slide is drawn as
it would be without any picture. But not every failure is borne: a request that makes no sense and a
picture of a kind that slides cannot hold end the whole presentation.
-/
namespace DeckPress.Presentation

open Attempt

variable {σ τ : Type}

/-- Whatever is asked for, the system refuses. -/
def IsBlind (fetch : Fetcher σ) : Prop := ∀ url u, ∃ reason, (fetch url u).1 = .error (.system reason)

def unreachable : String → Reply Picture.Bytes := fun _ => .error (.system "")

theorem IsBlind.gives {fetch : Fetcher σ} (h : IsBlind fetch) : Gives fetch (adds unreachable) := by
  intro u i
  cases i with
  | picture p =>
    obtain ⟨reason, hreason⟩ := h p.url u
    rw [adds, repliesIn, hreason]
    rfl
  | _ => rfl

theorem gives_of_replies {fetch : Fetcher σ} {f : String → Reply Picture.Bytes}
    (h : ∀ url u, (fetch url u).1 = f url) : Gives fetch (adds f) := by
  intro u i
  rw [show repliesIn fetch u = f from funext fun url => h url u]

/-- What was had is a picture that cannot be drawn in its frame. -/
def IsLoud (f : Frame) (bs : Picture.Bytes) : Prop :=
  match Picture.read bs with
  | .ok pic => ∃ e, fitted f pic = .error e
  | .error e => e.isSilent = false

/-- The reply for a picture ends the presentation: the request made no sense, or something was had
that has no frame or cannot be drawn in it. -/
def Aborts (q : Drawing.Picture Float) : Reply Picture.Bytes → Prop
  | .error (.nonsense _) => True
  | .error _ => False
  | .ok r =>
    r.isError = false ∧
      match frame q.box with
      | .ok f => IsLoud f r.body
      | .error _ => True

theorem placed_returns_iff {f : Frame} {bs : Picture.Bytes} :
    (∃ ss, placed f bs = .ok ss) ↔ ¬IsLoud f bs := by
  unfold placed IsLoud
  cases Picture.read bs with
  | error e => cases he : e.isSilent <;> simp [he]
  | ok pic =>
    simp only [bind_eq_ok, pure_eq_ok]
    cases fitted f pic <;> simp

theorem drawPicture_returns_iff {q : Drawing.Picture Float} {r : Reply Picture.Bytes} :
    (∃ ss, drawPicture q r = .ok ss) ↔ ¬Aborts q r := by
  match r with
  | .error (.nonsense reason) => simp [drawPicture, Aborts]
  | .error (.system reason) => simp [drawPicture, Aborts]
  | .error (.transport reason) => simp [drawPicture, Aborts]
  | .ok r =>
    by_cases hr : r.isError
    · simp [drawPicture, Aborts, hr]
    · simp only [drawPicture, Aborts, hr, if_false, true_and, bind_eq_ok, Bool.false_eq_true]
      cases frame q.box with
      | error e => simp
      | ok f => simpa using placed_returns_iff

/-- Beside the shapes of a slide without pictures those of the same slide with them: for every
picture there is one shape more, or none, and all else is the same. -/
inductive WithPictures (f : String → Reply Picture.Bytes) :
    List (Drawing.Instruction Float) → List Shape → List Shape → Prop
  | nil : WithPictures f [] [] []
  | skipped {q : Drawing.Picture Float} {is : List (Drawing.Instruction Float)}
      {ss₀ ss : List Shape} (h : drawPicture q (f q.url) = .ok [])
      (rest : WithPictures f is ss₀ ss) : WithPictures f (.picture q :: is) ss₀ ss
  | drawn {q : Drawing.Picture Float} {is : List (Drawing.Instruction Float)}
      {ss₀ ss : List Shape} {fr : Frame} {k : Picture.Format}
      (h : drawPicture q (f q.url) = .ok [.picture fr k]) (rest : WithPictures f is ss₀ ss) :
      WithPictures f (.picture q :: is) ss₀ (.picture fr k :: ss)
  | other {i : Drawing.Instruction Float} {is : List (Drawing.Instruction Float)}
      {part ss₀ ss : List Shape} (hi : i.picture? = none) (h : adds f i = .ok part)
      (rest : WithPictures f is ss₀ ss) : WithPictures f (i :: is) (part ++ ss₀) (part ++ ss)

theorem adds_of_other {i : Drawing.Instruction Float} (h : i.picture? = none)
    (f f' : String → Reply Picture.Bytes) : adds f i = adds f' i := by
  cases i with
  | picture p => cases h
  | _ => rfl

theorem withPictures_of_parts {f : String → Reply Picture.Bytes}
    {is : List (Drawing.Instruction Float)} {parts₀ parts : List (List Shape)}
    (h₀ : List.Forall₂ (fun i ss => adds unreachable i = .ok ss) is parts₀)
    (h : List.Forall₂ (fun i ss => adds f i = .ok ss) is parts) :
    WithPictures f is parts₀.flatten parts.flatten := by
  induction h₀ generalizing parts with
  | nil =>
    cases h
    exact .nil
  | @cons i part₀ is parts₀ hpart₀ _ ih =>
    obtain ⟨part, parts, hpart, hparts, rfl⟩ := List.forall₂_cons_left_iff.1 h
    have rest := ih hparts
    rw [List.flatten_cons, List.flatten_cons]
    cases hi : i.picture? with
    | none =>
      rw [adds_of_other hi unreachable f, hpart] at hpart₀
      cases hpart₀
      exact .other hi hpart rest
    | some q =>
      cases i with
      | picture q =>
        cases hpart₀
        obtain rfl | ⟨fr, k, rfl⟩ := drawPicture_eq_ok hpart
        · exact .skipped hpart rest
        · exact .drawn hpart rest
      | _ => cases hi

theorem IsDrawn.withPictures {f : String → Reply Picture.Bytes} {d : Drawing.Slide Float}
    {s₀ s : Slide} (h₀ : IsDrawn (adds unreachable) d s₀) (h : IsDrawn (adds f) d s) :
    s.background = s₀.background ∧ WithPictures f d.instructions s₀.shapes s.shapes := by
  obtain ⟨parts₀, hparts₀, rfl⟩ := h₀
  obtain ⟨parts, hparts, rfl⟩ := h
  exact ⟨rfl, withPictures_of_parts hparts₀ hparts⟩

theorem forall_adds_iff {f : String → Reply Picture.Bytes} {d : Drawing.Slide Float}
    (h₀ : ∀ i ∈ d.instructions, ∃ ss, adds unreachable i = .ok ss) :
    (∀ i ∈ d.instructions, ∃ ss, adds f i = .ok ss) ↔ ∀ q ∈ d.pictures, ¬Aborts q (f q.url) := by
  constructor
  · intro h q hq
    obtain ⟨i, hi, hiq⟩ := List.mem_filterMap.1 hq
    cases i with
    | picture q' =>
      cases hiq
      exact drawPicture_returns_iff.1 (h _ hi)
    | _ => cases hiq
  · intro h i hi
    cases hp : i.picture? with
    | none =>
      rw [adds_of_other hp f unreachable]
      exact h₀ i hi
    | some q =>
      cases i with
      | picture q => exact drawPicture_returns_iff.2 (h q (List.mem_filterMap.2 ⟨_, hi, rfl⟩))
      | _ => cases hp

/-- Beside a presentation without any picture: whatever the replies are, the drawing is presented if
and only if none of them ends the presentation, and then every picture is drawn or left out and all
the rest is drawn as it was. -/
theorem presents_iff_no_picture_aborts {g : Drawing Float} {blind : Fetcher τ}
    (hblind : IsBlind blind) {p₀ : Presentation} {t t' : τ}
    (h₀ : (ofDrawing blind g).outcome t = (.ok p₀, t')) {f : String → Reply Picture.Bytes}
    {fetch : Fetcher σ} (hf : ∀ url u, (fetch url u).1 = f url) (u : σ) :
    ((∃ p u', (ofDrawing fetch g).outcome u = (.ok p, u')) ↔
        ∀ d ∈ g.slides, ∀ q ∈ d.pictures, ¬Aborts q (f q.url)) ∧
      ∀ p u', (ofDrawing fetch g).outcome u = (.ok p, u') →
        p.width = p₀.width ∧ p.height = p₀.height ∧ p.slides.length = p₀.slides.length ∧
          ∀ (i : Nat) (d : Drawing.Slide Float) (s₀ s : Slide), g.slides[i]? = some d →
            p₀.slides[i]? = some s₀ → p.slides[i]? = some s →
              s.background = s₀.background ∧
                WithPictures f d.instructions s₀.shapes s.shapes := by
  have ha := gives_of_replies hf
  obtain ⟨hsize, hadds₀⟩ := (ofDrawing_returns_iff hblind.gives g t).1 ⟨p₀, t', h₀⟩
  constructor
  · rw [ofDrawing_returns_iff ha, and_iff_right hsize]
    exact forall₂_congr fun d hd => forall_adds_iff (hadds₀ d hd)
  · intro p u' h
    obtain ⟨hw₀, hh₀, -⟩ := ofDrawing_eq_ok.1 h₀
    obtain ⟨hw, hh, -⟩ := ofDrawing_eq_ok.1 h
    refine ⟨Except.ok.inj (hw.symm.trans hw₀), Except.ok.inj (hh.symm.trans hh₀), ?_, ?_⟩
    · rw [length_ofDrawing h, length_ofDrawing h₀]
    · intro i d s₀ s hd hs₀ hs
      exact (forall₂_getElem? (isDrawn_ofDrawing hblind.gives h₀) hd hs₀).withPictures
        (forall₂_getElem? (isDrawn_ofDrawing ha h) hd hs)

theorem isBlind_noPictures : IsBlind noPictures := fun _ _ => ⟨"", rfl⟩

def captionedDeck : Json :=
  .arr [.obj [("objects", .arr
    [.obj [("type", .str "image"), ("urlOrQuery", .str "https://example.com/a.jpg"),
      ("x", .int 0), ("y", .int 0), ("w", .str "100%"), ("h", .str "100%")],
    .obj [("type", .str "text"), ("text", .str "Caption"), ("x", .int 1), ("y", .int 1),
      ("w", .int 4), ("h", .int 1)]])]]

def dot : Picture.Bytes :=
  [71, 73, 70, 56, 57, 97, 1, 0, 1, 0, 128, 0, 0, 255, 255, 255, 0, 0, 0, 44, 0, 0, 0, 0, 1, 0, 1,
    0, 0, 2, 2, 68, 1, 0, 59]

def always (reply : Reply Picture.Bytes) : Fetcher Unit := fun _ => pure reply

/-- Whether the captioned slide is presented with these replies, and its number of shapes. -/
def captionedShapes (fetch : Fetcher Unit) : Option (List Nat) :=
  match (Compiler.plainCompiler.compileData captionedDeck).outcome () with
  | (.ok g, _) =>
    match (ofDrawing fetch g).outcome () with
    | (.ok p, _) => some (p.slides.map (·.shapes.length))
    | _ => none
  | _ => none

theorem captionedShapes_eq :
    captionedShapes noPictures = some [3] ∧ captionedShapes (always (.ok ⟨200, dot⟩)) = some [4] ∧
      captionedShapes (always (.error (.nonsense ""))) = none := by
  decide +kernel

theorem captionedShapes_eq_some {fetch : Fetcher Unit} {ns : List Nat}
    (h : captionedShapes fetch = some ns) :
    ∃ g t p u, (Compiler.plainCompiler.compileData captionedDeck).outcome () = (.ok g, t) ∧
      (ofDrawing fetch g).outcome () = (.ok p, u) ∧ p.slides.map (·.shapes.length) = ns := by
  unfold captionedShapes at h
  split at h
  · next g t hg =>
    split at h
    · next p u hp => exact ⟨g, t, p, u, hg, hp, Option.some.inj h⟩
    · cases h
  · cases h

theorem presents_captionedDeck :
    ∃ g t p₀ u₀ p u, (Compiler.plainCompiler.compileData captionedDeck).outcome () = (.ok g, t) ∧
      (ofDrawing noPictures g).outcome () = (.ok p₀, u₀) ∧
      p₀.slides.map (·.shapes.length) = [3] ∧
      (ofDrawing (always (.ok ⟨200, dot⟩)) g).outcome () = (.ok p, u) ∧
      p.slides.map (·.shapes.length) = [4] ∧ p.width = p₀.width ∧ p.height = p₀.height ∧
      ∀ d ∈ g.slides, ∀ q ∈ d.pictures, ¬Aborts q (.ok ⟨200, dot⟩) := by
  obtain ⟨hnone, hdot, -⟩ := captionedShapes_eq
  obtain ⟨g, t, p₀, u₀, hg, hp₀, hshapes₀⟩ := captionedShapes_eq_some hnone
  obtain ⟨g', t', p, u, hg', hp, hshapes⟩ := captionedShapes_eq_some hdot
  cases hg.symm.trans hg'
  have hreply : ∀ url u, (always (.ok ⟨200, dot⟩) url u).1 = .ok ⟨200, dot⟩ := fun _ _ => rfl
  obtain ⟨hiff, hsame⟩ :=
    presents_iff_no_picture_aborts (f := fun _ => .ok ⟨200, dot⟩) isBlind_noPictures hp₀ hreply ()
  obtain ⟨hw, hh, -⟩ := hsame p u hp
  exact ⟨g, t, p₀, u₀, p, u, hg, hp₀, hshapes₀, hp, hshapes, hw, hh, hiff.1 ⟨p, u, hp⟩⟩

/-- A request that makes no sense ends a presentation that could be made without any picture. -/
theorem presents_not_if_nonsense :
    ¬∀ (data : Json) (g : Drawing Float) (t : Unit),
        (Compiler.plainCompiler.compileData data).outcome () = (.ok g, t) →
          (∃ p u, (ofDrawing noPictures g).outcome () = (.ok p, u)) →
            ∀ reply : Reply Picture.Bytes,
              ∃ p u, (ofDrawing (always reply) g).outcome () = (.ok p, u) := by
  intro h
  obtain ⟨hnone, -, hnonsense⟩ := captionedShapes_eq
  obtain ⟨g, t, p₀, u₀, hg, hp₀, -⟩ := captionedShapes_eq_some hnone
  obtain ⟨p, u, hp⟩ := h captionedDeck g t hg ⟨p₀, u₀, hp₀⟩ (.error (.nonsense ""))
  unfold captionedShapes at hnonsense
  rw [hg] at hnonsense
  dsimp only at hnonsense
  rw [hp] at hnonsense
  cases hnonsense

end DeckPress.Presentation
