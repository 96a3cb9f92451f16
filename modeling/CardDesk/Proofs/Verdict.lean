import CardDesk.Proofs.Deadline
import CardDesk.Proofs.Moments

namespace CardDesk

variable {α β σ : Type}

namespace Dialogue

def Ends (P : α → Prop) : Dialogue α → Prop
  | done a => P a
  | note _ d => d.Ends P
  | ask _ k => ∀ x, (k x).Ends P

theorem Ends.bind {P : β → Prop} (d : Dialogue α) {f : α → Dialogue β} (hf : ∀ a, (f a).Ends P) :
    (d.bind f).Ends P := by
  induction d with
  | done a => exact hf a
  | note r d ih => exact ih
  | ask c k ih => exact ih

theorem Ends.run {P : α → Prop} {d : Dialogue α} (h : d.Ends P) (store : Store σ) (s : σ) :
    P (d.run store s).1 := by
  induction d generalizing s with
  | done a => exact h
  | note r d ih => exact ih h s
  | ask c k ih => exact ih _ (h _) _

theorem Ends.within {P : α → Prop} {d : Dialogue α} (h : d.Ends P) (limit : Option Nat) (now : Nat)
    (w : World) : ∀ a, (d.within limit now w).result = some a → P a := by
  induction d generalizing now w with
  | done a =>
    intro b hb
    cases hb
    exact h
  | note r d ih => exact ih h now w
  | ask c k ih =>
    rw [Dialogue.within, World.begin_eq, after_result]
    generalize Mishap.course (w.script.entry c) c = course
    cases course with
    | never =>
      intro a ha
      cases ha
    | answered x => exact ih x (h x) now _
    | passed before after =>
      dsimp only
      split
      · intro a ha
        cases ha
      split
      · intro a ha
        cases ha
      · exact ih _ (h _) _ _

theorem within_isSome_of_finishes {d : Dialogue α} {limit now t : Nat} {w : World}
    (h : d.finishes w = some t) (ht : now + t < limit) :
    ∃ a, (d.within (some limit) now w).result = some a := by
  induction d generalizing now t w with
  | done a => exact ⟨a, rfl⟩
  | note r d ih => exact ih h ht
  | ask c k ih =>
    rw [finishes, World.begin_eq] at h
    rw [within, World.begin_eq, after_result]
    generalize Mishap.course (w.script.entry c) c = course at h
    cases course with
    | never => cases h
    | answered x => exact ih x h ht
    | passed before after =>
      obtain ⟨rest, hrest, rfl⟩ := Option.map_eq_some_iff.mp h
      have hbefore : ¬limit ≤ now + before := by omega
      have hafter : ¬limit ≤ now + before + after := by omega
      simp only [reached_some, if_neg hbefore, if_neg hafter]
      exact ih _ hrest (by omega)

theorem talks_of_silent {d : Dialogue α} (h : d.Asks fun _ => False) (store : Store σ) (s : σ) :
    d.talks store s = [] := by
  induction d with
  | done a => rfl
  | note r d ih => exact ih h
  | ask c k => exact h.1.elim

theorem run_of_silent {d : Dialogue α} (h : d.Asks fun _ => False) (store : Store σ) (s : σ) :
    (d.run store s).2.2 = s := by
  induction d with
  | done a => rfl
  | note r d ih => exact ih h
  | ask c k => exact h.1.elim

theorem calls_of_silent {d : Dialogue α} (h : d.Asks fun _ => False) (limit : Option Nat)
    (now : Nat) (w : World) : Event.calls (d.within limit now w).events = [] :=
  List.eq_nil_iff_forall_not_mem.mpr (h.within limit now w)

end Dialogue

namespace Http

inductive Taken (q : Request) : Dialogue Response → Prop
  | tooLarge (h : 2097152 < q.pieces.flatten.length) : Taken q (.done BodyError.tooLarge.response)
  | broken {text : String} (hle : q.pieces.flatten.length ≤ 2097152) (h : q.failure = some text) :
    Taken q (.done (BodyError.failed text).response)
  | malformed {c : Json.Complaint} (hle : q.pieces.flatten.length ≤ 2097152)
    (hf : q.failure = none) (h : CardDesk.Request.ofJson q.pieces.flatten = .error c) :
    Taken q (.note (.malformed c)
      (AppError.badRequest ("Invalid card request: " ++ c.message)).answer)
  | decoded {b : CardDesk.Request} (hle : q.pieces.flatten.length ≤ 2097152)
    (hf : q.failure = none) (h : CardDesk.Request.ofJson q.pieces.flatten = .ok b) :
    Taken q (postDecoded b)

theorem answer_eq_postCard {q : Request} (hm : q.method = "POST")
    (hp : pathOf q.target = "/card") : answer q = postCard q := by
  rw [answer, ofPath?_eq_card_iff.mpr hp]
  simp [answerCard, hm]

theorem answer_taken {q : Request} (hm : q.method = "POST") (hp : pathOf q.target = "/card") :
    Taken q (answer q) := by
  rw [answer_eq_postCard hm hp, postCard, Request.body, gather_eq, bodyLimit]
  by_cases hlarge : 2097152 < q.pieces.flatten.length
  · rw [if_pos hlarge]
    exact .tooLarge hlarge
  · have hle := Nat.not_lt.mp hlarge
    rw [if_neg hlarge]
    cases hf : q.failure with
    | some text => exact .broken hle hf
    | none =>
      simp only [List.reverse_nil, List.flatten_nil, List.nil_append, postBytes]
      cases hb : CardDesk.Request.ofJson q.pieces.flatten with
      | error c => exact .malformed hle hf hb
      | ok b => exact .decoded hle hf hb

/-- How the answer to a body is told from the bytes that arrived and from whether all of them did;
and what the store is asked about a body that is turned down. -/
structure Verdict (q : Request) (x : Response) (calls : List Call) (unchanged : Prop) : Prop where
  tooLarge_iff : x.status.code = 413 ↔ 2097152 < q.pieces.flatten.length
  refused_iff : x.status.code ≠ 413 → (x.status.code = 400 ↔
    q.failure ≠ none ∨ ∃ c, CardDesk.Request.ofJson q.pieces.flatten = .error c)
  taken : x.status.code ≠ 413 → x.status.code ≠ 400 →
    x.status.code = 200 ∧ ("content-type", "text/plain; charset=utf-8") ∈ x.headers
  silent : x.status.code = 413 ∨ x.status.code = 400 → calls = [] ∧ unchanged

section Taken

variable {q : Request} {d : Dialogue Response} {calls : List Call} {unchanged : Prop}

theorem Verdict.ofTooLarge (h : 2097152 < q.pieces.flatten.length) (hcalls : calls = [])
    (hunchanged : unchanged) : Verdict q BodyError.tooLarge.response calls unchanged where
  tooLarge_iff := iff_of_true rfl h
  refused_iff hn := absurd rfl hn
  taken hn := absurd rfl hn
  silent _ := ⟨hcalls, hunchanged⟩

theorem Verdict.ofRefused {x : Response} (hle : q.pieces.flatten.length ≤ 2097152)
    (h : q.failure ≠ none ∨ ∃ c, CardDesk.Request.ofJson q.pieces.flatten = .error c)
    (hx : x.status = .badRequest) (hcalls : calls = []) (hunchanged : unchanged) :
    Verdict q x calls unchanged := by
  have hcode : x.status.code = 400 := by rw [hx, Status.code]
  constructor
  case tooLarge_iff => exact iff_of_false (by rw [hcode]; decide) (Nat.not_lt.mpr hle)
  case refused_iff => exact fun _ => iff_of_true hcode h
  case taken => exact fun _ hn => absurd hcode hn
  case silent => exact fun _ => ⟨hcalls, hunchanged⟩

theorem Verdict.ofDecoded {b : CardDesk.Request} (hle : q.pieces.flatten.length ≤ 2097152)
    (hf : q.failure = none) (h : CardDesk.Request.ofJson q.pieces.flatten = .ok b) (m : String) :
    Verdict q (.text .ok m) calls unchanged := by
  have hcode : (Response.text .ok m).status.code = 200 := rfl
  constructor
  case tooLarge_iff => exact iff_of_false (by rw [hcode]; decide) (Nat.not_lt.mpr hle)
  case refused_iff =>
    refine fun _ => iff_of_false (by rw [hcode]; decide) ?_
    rintro (hn | ⟨c, hc⟩)
    · exact hn hf
    · rw [h] at hc
      cases hc
  case taken =>
    refine fun _ _ => ⟨hcode, List.mem_append_right _ ?_⟩
    simp [Response.ownHeaders, Response.text, Media.name]
  case silent =>
    rw [hcode]
    rintro (hn | hn) <;> cases hn

theorem Taken.ends (h : Taken q d) (hsilent : (d.Asks fun _ => False) → calls = [] ∧ unchanged) :
    d.Ends fun x => Verdict q x calls unchanged := by
  cases h with
  | tooLarge h =>
    obtain ⟨hcalls, hunchanged⟩ := hsilent trivial
    exact Verdict.ofTooLarge h hcalls hunchanged
  | broken hle h =>
    obtain ⟨hcalls, hunchanged⟩ := hsilent trivial
    exact Verdict.ofRefused hle (.inl (by simp [h])) rfl hcalls hunchanged
  | malformed hle hf h =>
    obtain ⟨hcalls, hunchanged⟩ := hsilent trivial
    exact Verdict.ofRefused hle (.inr ⟨_, h⟩) rfl hcalls hunchanged
  | decoded hle hf h => exact Dialogue.Ends.bind (perform _) fun m => Verdict.ofDecoded hle hf h m

end Taken

theorem Request.body_eq {q q' : Request} (hpieces : q'.pieces.flatten = q.pieces.flatten)
    (hfailure : q'.failure = q.failure) : q'.body = q.body := by
  rw [Request.body, Request.body, gather_eq, gather_eq, hpieces, hfailure]

/-- The status of the answer to a body follows from the body alone, whatever the store does; one
that is turned down does not reach the store, and it makes no difference how a body is cut up. -/
theorem post_verdict {q : Request} (hm : q.method = "POST") (hp : pathOf q.target = "/card") :
    (∀ (σ : Type) (store : Store σ) (s : σ),
      Verdict q ((answer q).run store s).1 (((answer q).talks store s).map Sigma.fst)
        (((answer q).run store s).2.2 = s)) ∧
    (∀ seconds w t, (answer q).finishes w = some t → t < limitOf seconds →
      Verdict q (serve seconds q w).response (Event.calls (serve seconds q w).events)
        ((serve seconds q w).world = w)) ∧
    ∀ q' : Request, q'.method = "POST" → pathOf q'.target = "/card" →
      q'.pieces.flatten = q.pieces.flatten → q'.failure = q.failure →
      answer q' = answer q ∧ ∀ seconds w, serve seconds q' w = serve seconds q w := by
  have htaken := answer_taken hm hp
  refine ⟨fun σ store s => ?_, fun seconds w t ht hlt => ?_, fun q' hm' hp' hpieces hfailure => ?_⟩
  · refine (htaken.ends fun hsilent => ⟨?_, ?_⟩).run store s
    · rw [Dialogue.talks_of_silent hsilent, List.map_nil]
    · exact Dialogue.run_of_silent hsilent store s
  · have hzero : ¬limitOf seconds ≤ 0 := by omega
    have hin : 0 + t < limitOf seconds := by omega
    obtain ⟨x, hx⟩ := Dialogue.within_isSome_of_finishes ht hin
    simp only [serve, reached_some, if_neg hzero, hx, Option.getD_some]
    refine (htaken.ends fun hsilent => ⟨?_, ?_⟩).within _ _ w x hx
    · exact Dialogue.calls_of_silent hsilent _ _ w
    · exact Dialogue.within_of_silent hsilent _ _ w
  · have hanswer : answer q' = answer q := by
      rw [answer_eq_postCard hm' hp', answer_eq_postCard hm hp, postCard, postCard,
        Request.body_eq hpieces hfailure]
    refine ⟨hanswer, fun seconds w => ?_⟩
    rw [serve, serve, hanswer]

theorem post_verdict_of_pieces :
    let q : Request := ⟨"POST", "/card?from=desk",
      ["[null,\"Ali".toUTF8.toList, [], "ce\",\"CS\",\"T\",\"new\"]".toUTF8.toList], none⟩
    let whole : Request := ⟨"POST", "/card",
      ["[null,\"Alice\",\"CS\",\"T\",\"new\"]".toUTF8.toList], none⟩
    let w : World := .fresh fun
      | .findByIdentity => [some (.before 999)]
      | .insert => [some (.fail .duplicate)]
      | _ => []
    let x := serve 1 q w
    q.method = "POST" ∧ pathOf q.target = "/card" ∧ (answer q).finishes w = some 999 ∧
      x.response = .text .ok "The card already exists!" ∧
      Verdict q x.response (Event.calls x.events) (x.world = w) ∧ serve 1 whole w = x := by
  intro q whole w x
  have hp : pathOf q.target = "/card" := by decide
  have hp' : pathOf whole.target = "/card" := by decide
  have hbody : q.body = .ok q.pieces.flatten := by decide +kernel
  have hq : answer q = postDecoded ⟨none, "Alice", "CS", "T", "new"⟩ :=
    answer_eq_postDecoded rfl hp hbody (by decide +kernel)
  have hfinishes : (answer q).finishes w = some 999 := by
    rw [hq]
    decide
  have hresponse : x.response = .text .ok "The card already exists!" := by
    change (serve 1 q w).response = _
    rw [serve, hq]
    decide
  obtain ⟨-, hserved, hpieces⟩ := post_verdict rfl hp
  refine ⟨rfl, hp, hfinishes, hresponse, hserved 1 w 999 hfinishes (by decide), ?_⟩
  exact (hpieces whole rfl hp' (by decide +kernel) rfl).2 1 w

end Http

end CardDesk
