import CardDesk.Proofs.CardGrammar
import CardDesk.Proofs.Listing
import CardDesk.Proofs.Verdict

namespace CardDesk

open Json

namespace Card

theorem members_gathered (c : Card) :
    Gathers Gathered {} c.members ⟨c.id, c.name, c.department, c.category⟩ := by
  have hid : (Literal.ofInt c.id.toInt).integer? = some c.id.toInt := Literal.integer?_ofInt _
  rw [members, Category.letter_eq]
  exact .cons (.id rfl hid) (.cons (.name rfl rfl) (.cons (.department rfl rfl)
    (.cons (.category rfl (.code _)) (.nil _))))

theorem ofJson_json (c : Card) : ofJson (bytesOf c.json) = .ok c :=
  ofJson_of_gathers c.members_gathered ((c.json_written.alone_iff _).mpr rfl)

end Card

namespace Http

theorem error_written (status : Status) (text : String) :
    Written (.object [("error", .text text)]) (bytesOf (Response.error status text).body) := by
  apply object_written
  simp [Written.text (quote_written text)]

theorem getCards_run {σ : Type} {store : Store σ} {s : σ} {cards : List Card}
    (h : (store .findAll s).1 = .ok cards) :
    (getCards.run store s).1 = .json .ok (cardsJson cards) := by
  simp only [getCards, Service.list, Dialogue.bind, Dialogue.run, h]

theorem answer_eq_malformed {q : Request} (hm : q.method = "POST")
    (hp : pathOf q.target = "/card") {body : Bytes} {c : Complaint} (hbody : q.body = .ok body)
    (hc : CardDesk.Request.ofJson body = .error c) :
    answer q = .note (.malformed c)
      (.done (.error .badRequest ("Invalid card request: " ++ c.message))) := by
  rw [answer_eq_postCard hm hp, postCard, hbody]
  dsimp only
  rw [postBytes, hc]
  rfl

def TellsError (text : String) (body : Bytes) : Prop :=
  ∀ v, WrittenAlone v body ↔ v = .object [("error", .text text)]

theorem error_tellsError (status : Status) (text : String) :
    TellsError text (bytesOf (Response.error status text).body) :=
  (error_written status text).alone_iff

/-- Every card is read back from its JSON, which says nothing else; a listing is the list of what
its cards say; and an error's text is told as it is, also if it quotes the body that it is about. -/
theorem answers_read_back :
    (∀ c : Card, Card.ofJson (bytesOf c.json) = .ok c ∧
      ∀ v, WrittenAlone v (bytesOf c.json) ↔ v = c.value) ∧
    (∀ (σ : Type) (store : Store σ) (s : σ) (q : Request) (cards : List Card),
      q.method = "GET" → pathOf q.target = "/card" → (store .findAll s).1 = .ok cards →
      ListsCards cards (bytesOf ((answer q).run store s).1.body)) ∧
    (∀ status text, TellsError text (bytesOf (Response.error status text).body)) ∧
    ∀ (σ : Type) (store : Store σ) (s : σ) (q : Request) (body : Bytes) (c : Complaint),
      q.method = "POST" → pathOf q.target = "/card" → q.body = .ok body →
      CardDesk.Request.ofJson body = .error c →
      let x := ((answer q).run store s).1
      x.status.code = 400 ∧
        TellsError ("Invalid card request: " ++ c.message) (bytesOf x.body) := by
  refine ⟨fun c => ⟨c.ofJson_json, c.json_written.alone_iff⟩, ?_, error_tellsError, ?_⟩
  · intro σ store s q cards hm hp h
    rw [answer_eq_getCards hm hp, getCards_run h]
    exact cardsJson_listsCards cards
  · intro σ store s q body c hm hp hbody hc
    rw [answer_eq_malformed hm hp hbody hc]
    exact ⟨rfl, error_tellsError _ _⟩

theorem answers_read_back_of_odd_texts :
    let c : Card := ⟨-2147483648, "\"\\\x00\n😀", "教师\x1f", .teacher⟩
    let d : Card := ⟨7, "Bob", "EE", .student⟩
    let r : Register := ⟨7, [(-2147483648, c), (7, d)]⟩
    let q : Request := ⟨"GET", "/card", [], none⟩
    let q' : Request := ⟨"POST", "/card", ["[\"\\u0000\\\"😀\"]".toUTF8.toList], none⟩
    let e : Complaint := ⟨.mismatch (.wrongType (.text "\x00\"😀") "i32"), ⟨1, 15⟩⟩
    let x := ((answer q').run Register.answer r).1
    pathOf q.target = "/card" ∧ (Register.answer .findAll r).1 = .ok [c, d] ∧
      q'.body = .ok q'.pieces.flatten ∧ CardDesk.Request.ofJson q'.pieces.flatten = .error e ∧
      c.json = "\x7b\"id\":-2147483648,\"name\":\"\\\"\\\\\\u0000\\n😀\"," ++
        "\"department\":\"教师\\u001f\",\"type\":\"T\"\x7d" ∧
      Card.ofJson (bytesOf c.json) = .ok c ∧
      ListsCards [c, d] (bytesOf ((answer q).run Register.answer r).1.body) ∧
      x.status.code = 400 ∧
        TellsError ("Invalid card request: " ++ e.message) (bytesOf x.body) := by
  intro c d r q q' e x
  have hp : pathOf q.target = "/card" := by decide
  have hfound : (Register.answer .findAll r).1 = .ok [c, d] := rfl
  have hbody : q'.body = .ok q'.pieces.flatten := by decide +kernel
  have he : CardDesk.Request.ofJson q'.pieces.flatten = .error e := by decide +kernel
  obtain ⟨hcards, hlists, -, hrefused⟩ := answers_read_back
  exact ⟨hp, hfound, hbody, he, by decide +kernel, (hcards c).1, hlists _ _ r q _ rfl hp hfound,
    hrefused _ _ r q' _ e rfl hp hbody he⟩

end Http

end CardDesk
