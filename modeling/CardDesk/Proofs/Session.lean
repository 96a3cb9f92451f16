import CardDesk.Http.Desk

namespace CardDesk

theorem Dialogue.within_script {α : Type} (d : Dialogue α) (limit : Option Nat) (now : Nat)
    (w : World) :
    (d.within limit now w).world.script =
      (Event.calls (d.within limit now w).events).foldl Script.next w.script := by
  induction d generalizing now w with
  | done a => rfl
  | note r d ih => exact ih now w
  | ask c k ih =>
    have hcalls (o : Outcome α) (s : Script) :
        (Event.calls (o.after (.call c)).events).foldl Script.next s =
          (Event.calls o.events).foldl Script.next (s.next c) := rfl
    rw [within, World.begin_eq, hcalls]
    generalize Mishap.course (w.script.entry c) c = course
    cases course with
    | never => rfl
    | answered x => exact ih x now ⟨w.register, w.script.next c⟩
    | passed before after =>
      dsimp only [Outcome.after]
      split
      · rfl
      split
      · rfl
      · exact ih _ _ ⟨_, w.script.next c⟩

namespace Http

theorem serve_script (seconds : UInt64) (q : Request) (w : World) :
    (serve seconds q w).world.script =
      (Event.calls (serve seconds q w).events).foldl Script.next w.script := by
  rw [serve]
  dsimp only
  split
  · rfl
  · exact Dialogue.within_script _ _ _ w

def worldAfter (seconds : UInt64) (qs : List Request) (w : World) : World :=
  qs.foldl (fun w q => (serve seconds q w).world) w

theorem serveAll_append (seconds : UInt64) (qs qs' : List Request) (w : World) :
    serveAll seconds (qs ++ qs') w =
      serveAll seconds qs w ++ serveAll seconds qs' (worldAfter seconds qs w) := by
  induction qs generalizing w with
  | nil => rfl
  | cons q qs ih =>
    rw [List.cons_append, serveAll, serveAll, ih, List.cons_append]
    rfl

theorem answer_eq_postDecoded {q : Request} {body : Json.Bytes} {b : CardDesk.Request}
    (hm : q.method = "POST") (hp : pathOf q.target = "/card") (hbody : q.body = .ok body)
    (hb : CardDesk.Request.ofJson body = .ok b) : answer q = postDecoded b := by
  have hroute : Route.ofPath? "/card" = some .card := by decide
  rw [answer, hp, hroute]
  simp [answerCard, hm, postCard, hbody, postBytes, hb]

theorem answer_induction_on {P : Dialogue Response → Prop} {q : Request}
    (hdone : ∀ x, P (.done x)) (hcards : P getCards) (hready : P getReady)
    (hhead : P (getReady.bind fun x => .done x.withoutBody))
    (hmalformed : ∀ c x, P (.note (.malformed c) (.done x)))
    (hdecoded : ∀ body b, q.method = "POST" → pathOf q.target = "/card" → q.body = .ok body →
      CardDesk.Request.ofJson body = .ok b → P (postDecoded b)) : P (answer q) := by
  have hreadOnly (x : Response) : P (readOnly q.method (.done x)) := by
    unfold readOnly
    split
    · exact hdone x
    split
    · exact hdone x.withoutBody
    · exact hdone _
  rw [answer]
  split
  · exact hdone _
  · exact hreadOnly _
  · unfold readOnly
    split
    · exact hready
    split
    · exact hhead
    · exact hdone _
  · exact hreadOnly _
  · rename_i hpath
    unfold answerCard
    split
    · exact hcards
    split
    · rename_i hmethod
      rw [postCard]
      split
      · exact hdone _
      · rename_i body hbody
        rw [postBytes]
        split
        · exact hmalformed _ _
        · rename_i b hb
          exact hdecoded body b hmethod (Route.ofPath?_eq_some_iff.mp hpath) hbody hb
    split
    · exact hdone _
    split
    · exact hdone _
    · exact hdone _

theorem answer_induction {P : Dialogue Response → Prop} (hdone : ∀ x, P (.done x))
    (hcards : P getCards) (hready : P getReady)
    (hhead : P (getReady.bind fun x => .done x.withoutBody))
    (hmalformed : ∀ c x, P (.note (.malformed c) (.done x)))
    (hdecoded : ∀ b, P (postDecoded b)) (q : Request) : P (answer q) :=
  answer_induction_on hdone hcards hready hhead hmalformed fun _ b _ _ _ _ => hdecoded b

end Http

end CardDesk
