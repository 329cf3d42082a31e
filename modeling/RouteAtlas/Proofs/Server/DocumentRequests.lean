import RouteAtlas.Proofs.Fallible
import RouteAtlas.Server.Answer

/-!
# Requests for the document

The documentation of a service answers some requests with its document. They are answered with the text
of the document, whatever the state of the source of random values (`answersWith_of_dump`). Where the
address of the page leaves nothing open, the address of the document is one that they ask for
(`asksForDocument_of_views`).
-/

namespace RouteAtlas.Server

open RouteAtlas.Document RouteAtlas.Text

/-- The documentation answers the request, and with the document. -/
def AsksForDocument (s : Service) (r : Request) : Prop :=
  s.mockPath? r = none ∧ r.verb = "GET" ∧
    ∃ pattern, s.views.find? (fun (pattern, _) => pattern.accepts r.path.toList) =
      some (pattern, .document)

/-- The answer that is the text of a document. -/
def documentResponse (text : String) : Response :=
  { status := 200, contentType := some jsonContentType, body := text }

/-- The service answers requests for its document with this text, in every state of its source of random
values, and they change nothing. -/
def AnswersWith (s : Service) (text : String) : Prop :=
  (∀ j, (s.answerView .document).run.run j = (.ok (documentResponse text), j)) ∧
    ∀ r, AsksForDocument s r → ∀ source log, ({ s with source } : Service).exchange r log =
      (.ok (documentResponse text), { s with source }, log)

section Exchange

variable {s : Service} {text : String}

/-- The view of a document whose text has bytes is that text. -/
theorem run_answerView_document (htext : dump s.document Format.json.name = .ok text)
    (hbytes : lacksBytes s.document Format.json.name = false) (j : Journal) :
    (s.answerView .document).run.run j = (.ok (documentResponse text), j) := by
  show (answerDocument s.document _).run.run j = _
  unfold answerDocument
  rw [htext]
  dsimp only
  rw [hbytes]
  rfl

/-- Requests for the document are answered with its text, if that has bytes. -/
theorem answersWith_of_dump (htext : dump s.document Format.json.name = .ok text)
    (hbytes : lacksBytes s.document Format.json.name = false) : AnswersWith s text := by
  refine ⟨run_answerView_document htext hbytes, fun r hr source log => ?_⟩
  obtain ⟨hmock, hverb, pattern, hview⟩ := hr
  have hanswer : ({ s with source } : Service).answer r = s.answerView .document := by
    have hmock' : ({ s with source } : Service).mockPath? r = none := hmock
    unfold Service.answer
    rw [hmock']
    dsimp only
    unfold Service.answerDocs
    rw [hview]
    exact if_pos hverb
  unfold Service.exchange
  rw [hanswer, run_answerView_document htext hbytes]

end Exchange

/-! ## Addresses that leave nothing open -/

/-- The pattern of one text. -/
def literalPattern (cs : List Char) : Pattern := .all (cs.map fun c => .one (· == c))

/-- What may follow an address. -/
def addressEnd : Pattern := .optional (.text "\n")

/-- The short form of a sequence accepts what the sequence does. -/
theorem accepts_andThen_addressEnd (cs ds : List Char) :
    (Pattern.andThen (literalPattern cs) addressEnd).accepts ds =
      (Pattern.seq (literalPattern cs) addressEnd).accepts ds := by
  cases cs with
  | nil => cases ds <;> rfl
  | cons c cs => rfl

/-- What follows a text is left to the end of its address. -/
theorem accepts_literalPattern (cs rest : List Char) :
    (Pattern.seq (literalPattern cs) addressEnd).accepts (cs ++ rest) = addressEnd.accepts rest := by
  induction cs with
  | nil => cases rest <;> rfl
  | cons c cs ih =>
    have hafter : (Pattern.seq (literalPattern (c :: cs)) addressEnd).after c =
        .andThen (literalPattern cs) addressEnd := by
      show Pattern.andThen (.andThen (if c == c then .done else .none) (literalPattern cs)) _ = _
      rw [if_pos (beq_self_eq_true c)]
      rfl
    show ((Pattern.seq (literalPattern (c :: cs)) addressEnd).after c).accepts (cs ++ rest) = _
    rw [hafter, accepts_andThen_addressEnd, ih]

/-- Without an opening brace every character of an address stands for itself. -/
theorem addressParts_of_not_mem {cs : List Char} (h : '\x7b' ∉ cs) :
    addressParts 0 cs = cs.map .char := by
  induction cs with
  | nil => rfl
  | cons c cs ih =>
    obtain ⟨hc, hcs⟩ : '\x7b' ≠ c ∧ '\x7b' ∉ cs := by simpa using h
    have hhole : addressHole? (c :: cs) = none := by
      unfold addressHole?
      split
      · next heq => exact absurd (List.cons.inj heq).1.symm hc
      · rfl
    rw [addressParts, hhole, List.map_cons, ← ih hcs]

/-- An address that leaves nothing open answers for itself. -/
theorem addressPattern_of_not_mem {address : String} (h : '\x7b' ∉ address.toList) :
    addressPattern address = .ok (.seq (literalPattern address.toList) addressEnd) := by
  have hpatterns : (address.toList.map AddressPart.char).mapM AddressPart.pattern =
      .ok (address.toList.map fun c => .one (· == c)) := by
    rw [mapM_eq_ok_iff, List.forall₂_map_left_iff, List.forall₂_map_right_iff]
    exact List.forall₂_same.2 fun c _ => rfl
  have hnames (f : AddressPart → Option String) (hf : ∀ c, f (.char c) = none) :
      (address.toList.map AddressPart.char).filterMap f = [] := by
    rw [List.filterMap_eq_nil_iff]
    intro part hpart
    obtain ⟨c, _, rfl⟩ := List.mem_map.1 hpart
    exact hf c
  unfold addressPattern
  rw [addressParts_of_not_mem h]
  dsimp only
  rw [hpatterns, hnames _ fun _ => rfl]
  rfl

section Views

variable {s : Service} {a : DocsAddresses}

/-- The views of a page whose address leaves nothing open. -/
theorem views_of_not_mem (hpage : '\x7b' ∉ a.page.toList) : a.views = .ok [
    (.seq (literalPattern a.page.toList) addressEnd, .page),
    (.seq (literalPattern a.document.toList) addressEnd, .document),
    (.seq (literalPattern a.documentBelow.toList) addressEnd, .document),
    (.seq (literalPattern a.collection.toList) addressEnd, .collection)] := by
  have hbelow (tail : String) (htail : '\x7b' ∉ tail.toList) :
      '\x7b' ∉ (a.page ++ tail).toList := by
    rw [String.toList_append, List.mem_append]
    exact not_or.2 ⟨hpage, htail⟩
  have hview {address : String} (view : DocsView) (h : '\x7b' ∉ address.toList) :
      (do return (← addressPattern address, view)) =
        Except.ok (ε := AddressFault) (.seq (literalPattern address.toList) addressEnd, view) := by
    rw [addressPattern_of_not_mem h]
    rfl
  exact mapM_eq_ok_iff.2 (.cons (hview .page hpage)
    (.cons (hview .document (hbelow "-json" (by decide)))
      (.cons (hview .document (hbelow "/spec" (by decide)))
        (.cons (hview .collection (hbelow "/postman" (by decide))) .nil))))

/-- The address of the document is one of its requests, if the page leaves nothing open in its own
address and the mock server does not answer there. -/
theorem asksForDocument_of_views (hviews : a.views = .ok s.views) (hpage : '\x7b' ∉ a.page.toList)
    (hmock : s.mockPath? ⟨"GET", a.document⟩ = none) : AsksForDocument s ⟨"GET", a.document⟩ := by
  have hpassed : (Pattern.seq (literalPattern a.page.toList) addressEnd).accepts
      a.document.toList = false := by
    unfold DocsAddresses.document
    rw [String.toList_append, accepts_literalPattern]
    rfl
  have haccepted : (Pattern.seq (literalPattern a.document.toList) addressEnd).accepts
      a.document.toList = true := by
    have hnothing := accepts_literalPattern a.document.toList []
    rw [List.append_nil] at hnothing
    exact hnothing
  refine ⟨hmock, rfl, .seq (literalPattern a.document.toList) addressEnd, ?_⟩
  rw [← Except.ok.inj ((views_of_not_mem hpage).symm.trans hviews)]
  simp only [List.find?_cons, hpassed, haccepted]

end Views

end RouteAtlas.Server
