import VolumeNode.Proofs.Connection.Stream

/-!
# A connection from its first line to its last

`Answered` says which responses the lines of a client get, one line after another: nothing for a
blank line, the response of the node for a request, in the world that the lines before it have left,
and a refusal for anything else, which changes no world.

* `Answered.length_eq`: every line that is not blank is answered once.
* `Answered.without`: a refused line makes no difference to the others.
* `serve_answered`: the lines up to the first that is no text are answered.
* `exchange_answers`: so are those of any stream, and the responses stand on lines of their own.
-/

namespace VolumeNode.Connection

open Program Text

variable {σ : Type} {c : Config} {w : World Action.interface σ} {s s' : σ} {text : String}
  {texts : List String} {fault : Json.Fault} {replies : List Response}

/-- The response to a line that is no request. -/
def refusal (fault : Json.Fault) (text : String) : Response :=
  ⟨false, some ⟨.invalidArgument, .invalidArgument,
    "malformed request: " ++ fault.message text.toList⟩⟩

/-- **Which responses the lines of a client get**, from a first state of the world to a last one. -/
inductive Answered (c : Config) (w : World Action.interface σ) :
    List String → σ → List Response → σ → Prop where
  /-- Nothing has been sent. -/
  | nothing (s : σ) : Answered c w [] s [] s
  /-- A blank line is passed over. -/
  | blank {text : String} {texts : List String} {replies : List Response} {s s' : σ}
      (hblank : isBlankText text = true) (hrest : Answered c w texts s replies s') :
      Answered c w (text :: texts) s replies s'
  /-- A request is handled, and the next line finds the world that this has left. -/
  | request {text : String} {texts : List String} {replies : List Response} {s s' : σ} {r : Request}
      (hblank : isBlankText text = false) (hdecode : Request.decode text.toList = .ok r)
      (hrest : Answered c w texts ((Node.handle c r).run w s).2 replies s') :
      Answered c w (text :: texts) s (((Node.handle c r).run w s).1 :: replies) s'
  /-- A line that is no request is refused, and the next line finds the same world. -/
  | refused {text : String} {texts : List String} {replies : List Response} {s s' : σ}
      {fault : Json.Fault} (hblank : isBlankText text = false)
      (hdecode : Request.decode text.toList = .error fault)
      (hrest : Answered c w texts s replies s') :
      Answered c w (text :: texts) s (refusal fault text :: replies) s'

/-- **Every line that is not blank is answered once.** -/
theorem Answered.length_eq (h : Answered c w texts s replies s') :
    replies.length = (texts.filter fun text => !isBlankText text).length := by
  induction h with
  | nothing s => rfl
  | blank hblank hrest ih => simp [hblank, ih]
  | request hblank hdecode hrest ih => simp [hblank, ih]
  | refused hblank hdecode hrest ih => simp [hblank, ih]

/-- **A refused line makes no difference to the others**: without it they get the same responses, in
the same order, and the world ends up the same. -/
theorem Answered.without {before after : List String} (hblank : isBlankText text = false)
    (hdecode : Request.decode text.toList = .error fault)
    (h : Answered c w (before ++ text :: after) s replies s') :
    ∃ earlier later, replies = earlier ++ refusal fault text :: later ∧
      Answered c w (before ++ after) s (earlier ++ later) s' := by
  induction before generalizing s replies with
  | nil =>
    cases h with
    | blank hblank' hrest => simp [hblank] at hblank'
    | request _ hdecode' hrest => simp [hdecode] at hdecode'
    | refused _ hdecode' hrest =>
      rw [hdecode] at hdecode'
      cases hdecode'
      exact ⟨[], _, rfl, hrest⟩
  | cons first before ih =>
    cases h with
    | blank hblank' hrest =>
      obtain ⟨earlier, later, rfl, hothers⟩ := ih hrest
      exact ⟨earlier, later, rfl, .blank hblank' hothers⟩
    | request hblank' hdecode' hrest =>
      obtain ⟨earlier, later, rfl, hothers⟩ := ih hrest
      exact ⟨_ :: earlier, later, rfl, .request hblank' hdecode' hothers⟩
    | refused hblank' hdecode' hrest =>
      obtain ⟨earlier, later, rfl, hothers⟩ := ih hrest
      exact ⟨_ :: earlier, later, rfl, .refused hblank' hdecode' hothers⟩

/-- One line that is not blank: its response, and then those to the lines behind it. -/
theorem serve_line {line : List UInt8} (lines : List (List UInt8))
    (hline : Utf8.encode text = line) (hblank : isBlankText text = false) (s : σ) :
    (serve c (line :: lines)).run w s =
      let first := (respond c text).run w s
      let others := (serve c lines).run w first.2
      (first.1 :: others.1, others.2) := by
  rw [serve, Utf8.decode?_eq_some_iff_encode_eq.2 hline]
  dsimp only
  rw [if_neg (by simp [hblank]), run_bind, run_bind]
  rfl

/-- **The lines up to the first that is no text are answered**, and no line behind them. -/
theorem serve_answered (c : Config) (w : World Action.interface σ) (lines : List (List UInt8))
    (s : σ) :
    ∃ texts rest, lines = texts.map Utf8.encode ++ rest ∧
      (∀ line ∈ rest.head?, ∀ text, Utf8.encode text ≠ line) ∧
      Answered c w texts s ((serve c lines).run w s).1 ((serve c lines).run w s).2 := by
  induction lines generalizing s with
  | nil => exact ⟨[], [], rfl, by simp, .nothing s⟩
  | cons line lines ih =>
    cases hline : Utf8.decode? line with
    | none =>
      refine ⟨[], line :: lines, rfl, ?_, ?_⟩
      · intro line' hline' text htext
        obtain rfl : line = line' := by simpa using hline'
        rw [Utf8.decode?_eq_some_iff_encode_eq.2 htext] at hline
        cases hline
      · rw [serve, hline]
        exact .nothing s
    | some text =>
      have hencode := Utf8.decode?_eq_some_iff_encode_eq.1 hline
      cases hblank : isBlankText text with
      | true =>
        obtain ⟨texts, rest, rfl, hrest, hanswered⟩ := ih s
        rw [serve_blank _ hline hblank]
        exact ⟨text :: texts, rest, by rw [List.map_cons, hencode]; rfl, hrest,
          .blank hblank hanswered⟩
      | false =>
        obtain ⟨texts, rest, hlines, hrest, hanswered⟩ := ih ((respond c text).run w s).2
        refine ⟨text :: texts, rest, by rw [List.map_cons, hencode, hlines]; rfl, hrest, ?_⟩
        rw [serve_line lines hencode hblank]
        cases hdecode : Request.decode text.toList with
        | ok r =>
          have hrespond : respond c text = Node.handle c r := by rw [respond, hdecode]
          rw [hrespond] at hanswered ⊢
          exact .request hblank hdecode hanswered
        | error fault =>
          rw [respond_of_error hdecode] at hanswered ⊢
          exact .refused hblank hdecode hanswered

/-- **Each line of a stream is answered once and in order**, up to the first that is no text. What is
sent back, cut at its line feeds, are the responses, and they are what a client reads from it. A request is
handled in the world that the lines before it have left; a line that is no request is refused, and makes no
difference to the others. -/
theorem exchange_answers (c : Config) (w : World Action.interface σ) (sent : Output) (s : σ) :
    ∃ texts rest replies,
      cut sent = texts.map Utf8.encode ++ rest ∧
      (∀ line ∈ rest.head?, ∀ text, Utf8.encode text ≠ line) ∧
      Answered c w texts s replies ((exchange c sent).run w s).2 ∧
      replies.length = (texts.filter fun text => !isBlankText text).length ∧
      ((exchange c sent).run w s).1.splitOn lineFeed =
        replies.map (fun r => Utf8.encode r.encode) ++ [[]] ∧
      received ((exchange c sent).run w s).1 = replies.map (fun r => some (.ok r)) ∧
      ∀ before text after fault, texts = before ++ text :: after → isBlankText text = false →
        Request.decode text.toList = .error fault →
        ∃ earlier later, replies = earlier ++ refusal fault text :: later ∧
          Answered c w (before ++ after) s (earlier ++ later) ((exchange c sent).run w s).2 := by
  obtain ⟨texts, rest, hlines, hrest, hanswered⟩ := serve_answered c w (lines sent) s
  have hrun : (exchange c sent).run w s =
      (written ((serve c (lines sent)).run w s).1, ((serve c (lines sent)).run w s).2) := by
    rw [exchange, run_bind]
    rfl
  rw [lines_eq_cut] at hlines
  rw [hrun]
  refine ⟨texts, rest, _, hlines, hrest, hanswered, hanswered.length_eq, splitOn_written _,
    received_written_map _, ?_⟩
  rintro before text after fault rfl hblank hdecode
  exact hanswered.without hblank hdecode

end VolumeNode.Connection
