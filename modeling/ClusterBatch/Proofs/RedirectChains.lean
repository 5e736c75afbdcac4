import ClusterBatch.Proofs.Demultiplexing

/-!
# Chains of redirects

After the first replies have come in, each command that was redirected is sent from node to node
along the redirects, and nothing else is sent apart from questions about the topology. The hops of
a command form a chain: each follows the redirect in the answer to the one before. The chain ends
at the first answer that is no redirect, or where no further hop can be made.

Main statement: `Pipeline.onCluster_chases`.
-/

namespace ClusterBatch

namespace Transmission

/-- What the last reply to a parcel is, or what is wrong with the replies. -/
def answer (transmission : Transmission) : Except ExchangeError Reply :=
  match transmission.result with
  | .ok replies => .ok (replies.getLastD .null)
  | .error cause => .error cause

/-- What is made of the last reply to a parcel. -/
def Answers (transmission : Transmission) : Except Error Reply → Prop
  | .ok reply => transmission.answer = .ok reply
  | .error e => ∃ cause,
      transmission.answer = .error (.undecodable cause) ∧ e = .protocol (.undecodable cause)

end Transmission

theorem Parcel.sends_lastReply {σ : Type} [Network σ] (limit : Option Nat) (backoff : Backoff)
    (parcel : Parcel) :
    Sends (do pure ((← parcel.exchange limit backoff).getLastD .null) : Call σ Reply).run
      fun sent result => ∃ t, sent = [t] ∧ t.parcel = parcel ∧ t.Answers result := by
  refine (Sends.mapCall (·.getLastD .null) (sends_exchange (σ := σ) limit backoff parcel)).mono ?_
  intro sent result _ h
  obtain ⟨e, ⟨t, rfl, hparcel, cause, hresult, rfl⟩, rfl⟩ |
    ⟨replies, ⟨t, rfl, hparcel, hresult⟩, rfl⟩ := h
  · have hanswer : t.answer = .error (.undecodable cause) := by simp [Transmission.answer, hresult]
    exact ⟨t, rfl, hparcel, cause, hanswer, rfl⟩
  · have hanswer : t.answer = .ok (replies.getLastD .null) := by
      rw [Transmission.Brings] at hresult
      simp [Transmission.answer, hresult]
    exact ⟨t, rfl, hparcel, hanswer⟩

namespace Pipeline

/-- A redirect that was followed: the questions about the topology that it gave rise to, and what
was sent to the node that it names. -/
structure Hop where
  redirect : Redirect
  queries : List Transmission
  transmission : Transmission

namespace Hop

def transmissions (hop : Hop) : List Transmission := hop.queries ++ [hop.transmission]

/-- A hop takes a command, and only that one, to the node that the redirect names. -/
structure Takes (command : Command) (hop : Hop) : Prop where
  node_eq : NodeAddress.ofText hop.redirect.address = .ok hop.transmission.node
  frame_eq : hop.transmission.parcel.frame =
    match hop.redirect.kind with
    | .moved => command.encode
    | .ask => Request.asking.encode ++ command.encode
  count_eq : hop.transmission.parcel.count =
    match hop.redirect.kind with
    | .moved => 1
    | .ask => 2
  queries : ∀ t ∈ hop.queries, t.parcel = Discovery.parcel t.node

/-- The node replies to the command, so the last of its replies is one. -/
theorem Takes.ne_nil {command : Command} {hop : Hop} {replies : List Reply} (h : hop.Takes command)
    (hresult : hop.transmission.result = .ok replies) : replies ≠ [] := by
  have hlength := Transmission.length_of_result hresult
  rw [h.count_eq] at hlength
  rintro rfl
  cases hkind : hop.redirect.kind <;> simp [hkind] at hlength

end Hop

/-- Each hop follows the redirect in the answer before it. -/
def Chained : Except ExchangeError Reply → List Hop → Prop
  | _, [] => True
  | answer, hop :: rest =>
    (∃ reply, answer = .ok reply ∧ Redirect.ofReply? reply = some hop.redirect) ∧
      Chained hop.transmission.answer rest

def lastAnswer : Except ExchangeError Reply → List Hop → Except ExchangeError Reply
  | answer, [] => answer
  | _, hop :: rest => lastAnswer hop.transmission.answer rest

/-- Questions about the topology are asked for the first `MOVED` only. -/
def AsksOnce : Bool → List Hop → Prop
  | _, [] => True
  | asked, hop :: rest =>
    (hop.queries ≠ [] → hop.redirect.kind = .moved ∧ asked = false) ∧
      AsksOnce (asked || hop.redirect.kind = .moved) rest

/-- What a command comes to that may be redirected `left` times more: what the answer says if that
is no redirect, else why the redirect is not followed. -/
inductive Ends (left : Nat) : Except ExchangeError Reply → Except Error Outcome → Prop
  | answered {reply : Reply} (h : Redirect.ofReply? reply = none) :
    Ends left (.ok reply) (.ok (.ofReply reply))
  | tooMany {reply : Reply} {redirect : Redirect} (h : Redirect.ofReply? reply = some redirect)
    (hleft : left = 0) : Ends left (.ok reply) (.error (.tooManyRedirects redirect.slot))
  | unusable {reply : Reply} {redirect : Redirect} {fault : AddressError}
    (h : Redirect.ofReply? reply = some redirect) (hleft : 0 < left)
    (hfault : NodeAddress.ofText redirect.address = .error fault) :
    Ends left (.ok reply) (.error (.protocol (.unusableRedirect redirect.address)))
  | undecodable {cause : DecodeError} :
    Ends left (.error (.undecodable cause)) (.error (.protocol (.undecodable cause)))

/-- What is sent for a command after it has been redirected for the first time, and what the
command comes to. -/
structure Course where
  hops : List Hop
  ending : Except Error Outcome

def Course.transmissions (course : Course) : List Transmission :=
  course.hops.flatMap Hop.transmissions

/-- A course goes along the redirects, from the first reply to a command on. -/
structure Course.Chases (limit : Nat) (command : Command) (first : Reply) (course : Course) :
    Prop where
  length_le : course.hops.length ≤ limit
  takes : ∀ hop ∈ course.hops, hop.Takes command
  chained : Chained (.ok first) course.hops
  ends : Ends (limit - course.hops.length) (lastAnswer (.ok first) course.hops) course.ending

namespace Course

variable {limit : Nat} {command : Command} {first reply : Reply} {redirect : Redirect} {hop : Hop}
  {course : Course}

theorem Chases.tooMany (h : Redirect.ofReply? first = some redirect) :
    Chases 0 command first ⟨[], .error (.tooManyRedirects redirect.slot)⟩ :=
  ⟨Nat.le_refl 0, nofun, trivial, .tooMany h rfl⟩

theorem Chases.unusable {fault : AddressError} (h : Redirect.ofReply? first = some redirect)
    (hfault : NodeAddress.ofText redirect.address = .error fault) :
    Chases (limit + 1) command first
      ⟨[], .error (.protocol (.unusableRedirect redirect.address))⟩ :=
  ⟨Nat.zero_le _, nofun, trivial, .unusable h (Nat.succ_pos limit) hfault⟩

theorem Chases.answered (h : Redirect.ofReply? first = none) :
    Chases limit command first ⟨[], .ok (.ofReply first)⟩ :=
  ⟨Nat.zero_le _, nofun, trivial, .answered h⟩

theorem Chases.undecodable {cause : DecodeError}
    (h : Redirect.ofReply? first = some hop.redirect) (htakes : hop.Takes command)
    (hanswer : hop.transmission.answer = .error (.undecodable cause)) :
    Chases (limit + 1) command first ⟨[hop], .error (.protocol (.undecodable cause))⟩ where
  length_le := Nat.le_add_left 1 limit
  takes := by simpa using htakes
  chained := ⟨⟨first, rfl, h⟩, trivial⟩
  ends := by
    rw [lastAnswer, lastAnswer, hanswer]
    exact .undecodable

/-- A course goes on from the answer to its first hop. -/
theorem Chases.cons (h : Redirect.ofReply? first = some hop.redirect) (htakes : hop.Takes command)
    (hanswer : hop.transmission.answer = .ok reply) (hrest : course.Chases limit command reply) :
    Chases (limit + 1) command first ⟨hop :: course.hops, course.ending⟩ where
  length_le := Nat.succ_le_succ hrest.length_le
  takes := List.forall_mem_cons.2 ⟨htakes, hrest.takes⟩
  chained := ⟨⟨first, rfl, h⟩, hanswer ▸ hrest.chained⟩
  ends := by
    rw [List.length_cons, Nat.add_sub_add_right, lastAnswer, hanswer]
    exact hrest.ends

/-- A course is what was sent, and comes to what was returned. -/
structure Records (refreshed : Bool) (sent : List Transmission)
    (result : Except Error (Outcome × Bool)) (course : Course) : Prop where
  sent_eq : sent = course.transmissions
  asksOnce : AsksOnce refreshed course.hops
  ending_eq : course.ending = Prod.fst <$> result
  refreshed_eq : ∀ {outcome after}, result = .ok (outcome, after) →
    after = (refreshed || course.hops.any (·.redirect.kind = .moved))

theorem Records.nil {refreshed : Bool} {outcome : Outcome} :
    Records refreshed [] (.ok (outcome, refreshed)) ⟨[], .ok outcome⟩ where
  sent_eq := rfl
  asksOnce := trivial
  ending_eq := rfl
  refreshed_eq := by
    intro outcome after h
    cases h
    simp

theorem Records.fails {refreshed : Bool} {e : Error} :
    Records refreshed [] (.error e) ⟨[], .error e⟩ where
  sent_eq := rfl
  asksOnce := trivial
  ending_eq := rfl
  refreshed_eq := nofun

theorem Records.cons {refreshed : Bool} {sent : List Transmission}
    {result : Except Error (Outcome × Bool)}
    (hasked : hop.queries ≠ [] → hop.redirect.kind = .moved ∧ refreshed = false)
    (h : course.Records (refreshed || hop.redirect.kind = .moved) sent result) :
    Records refreshed (hop.transmissions ++ sent) result ⟨hop :: course.hops, course.ending⟩ where
  sent_eq := by rw [h.sent_eq, transmissions, transmissions, List.flatMap_cons]
  asksOnce := ⟨hasked, h.asksOnce⟩
  ending_eq := h.ending_eq
  refreshed_eq := by
    intro outcome after hresult
    rw [h.refreshed_eq hresult, List.any_cons, Bool.or_assoc]

end Course

variable {σ : Type} [Network σ]

theorem sends_heed (refreshed : Bool) (kind : RedirectKind) :
    Sends (heed refreshed kind : Call σ _).run fun sent result =>
      (∀ t ∈ sent, t.parcel = Discovery.parcel t.node) ∧
        (sent ≠ [] → kind = .moved ∧ refreshed = false) ∧ result = .ok () := by
  have hpure : Sends (pure () : Call σ Unit).run fun sent result =>
      (∀ t ∈ sent, t.parcel = Discovery.parcel t.node) ∧
        (sent ≠ [] → kind = .moved ∧ refreshed = false) ∧ result = .ok () := by
    refine (Sends.pureCall ()).mono ?_
    rintro _ _ - ⟨rfl, rfl⟩
    simp
  cases kind with
  | ask => exact hpure
  | moved =>
    cases refreshed with
    | true => exact hpure
    | false => exact Discovery.sends_tryRefresh.mono fun _ _ _ h => ⟨h.1, fun _ => ⟨rfl, rfl⟩, h.2⟩

/-- A hop is made unless the redirect names no address. -/
theorem sends_hop (settings : Settings) (command : Command) (refreshed : Bool)
    (redirect : Redirect) :
    Sends (hop settings command refreshed redirect : Call σ _).run fun sent result =>
      (∃ fault, NodeAddress.ofText redirect.address = .error fault ∧ sent = [] ∧
        result = .error (.protocol (.unusableRedirect redirect.address))) ∨
      ∃ hop : Hop, sent = hop.transmissions ∧ hop.redirect = redirect ∧ hop.Takes command ∧
        (hop.queries ≠ [] → redirect.kind = .moved ∧ refreshed = false) ∧
        hop.transmission.Answers result := by
  cases hnode : NodeAddress.ofText redirect.address with
  | error fault =>
    have hfails : hop settings command refreshed redirect =
        (throw (.protocol (.unusableRedirect redirect.address)) : Call σ _) := by
      simp only [Pipeline.hop, Redirect.node, hnode]
      rfl
    rw [hfails]
    exact (Sends.throwCall _).mono fun sent result _ h => .inl ⟨fault, rfl, h⟩
  | ok node =>
    have hgoes : hop settings command refreshed redirect =
        ((do
          heed refreshed redirect.kind
          let replies ← (redirected node redirect.kind command).exchange settings.replyLimit
            settings.backoff
          pure (replies.getLastD .null)) : Call σ _) := by
      simp only [Pipeline.hop, Redirect.node, hnode]
      rfl
    rw [hgoes]
    refine (Sends.bindCall _ (sends_heed refreshed redirect.kind) fun _ =>
      Parcel.sends_lastReply _ _ _).mono ?_
    intro sent result _ h
    obtain ⟨e, ⟨-, -, habsurd⟩, -⟩ |
      ⟨_, queries, _, rfl, -, ⟨hqueries, hasked, -⟩, t, rfl, hparcel, hanswers⟩ := h
    · cases habsurd
    refine .inr ⟨⟨redirect, queries, t⟩, rfl, rfl, ?_, hasked, hanswers⟩
    have hto : t.node = node := by
      rw [Transmission.node, hparcel]
      cases redirect.kind <;> rfl
    refine ⟨hto ▸ hnode, ?_, ?_, hqueries⟩
    · rw [hparcel]
      dsimp only
      cases redirect.kind <;> rfl
    · rw [hparcel]
      dsimp only
      cases redirect.kind <;> rfl

theorem sends_follow (settings : Settings) (command : Command) (left : Nat) (refreshed : Bool)
    (redirect : Redirect) :
    Sends (follow settings command left refreshed redirect : Call σ _).run fun sent result =>
      ∃ course : Course, course.Records refreshed sent result ∧
        ∀ reply, Redirect.ofReply? reply = some redirect → course.Chases left command reply := by
  induction left generalizing refreshed redirect with
  | zero =>
    refine (Sends.throwCall _).mono ?_
    rintro sent result - ⟨rfl, rfl⟩
    exact ⟨_, .fails, fun _ h => .tooMany h⟩
  | succ left ih =>
    -- The induction hypothesis is about the redirect that comes back, if one does.
    refine (Sends.bindCall (fun reply sent result =>
      (Redirect.ofReply? reply = none ∧ sent = [] ∧
        result = .ok (.ofReply reply, refreshed || redirect.kind = .moved)) ∨
      ∃ next, Redirect.ofReply? reply = some next ∧ ∃ course : Course,
        course.Records (refreshed || redirect.kind = .moved) sent result ∧
          ∀ reply, Redirect.ofReply? reply = some next → course.Chases left command reply)
      (sends_hop settings command refreshed redirect) ?_).mono ?_
    · intro reply
      cases hreply : Redirect.ofReply? reply with
      | none => exact (Sends.pureCall _).mono fun _ _ _ h => .inl ⟨rfl, h⟩
      | some next => exact (ih _ next).mono fun _ _ _ h => .inr ⟨next, rfl, h⟩
    · intro sent result _ h
      obtain ⟨e, hhop, rfl⟩ | ⟨reply, first, rest, rfl, -, hhop, hrest⟩ := h
      · obtain ⟨fault, hfault, rfl, he⟩ |
          ⟨hop, rfl, rfl, htakes, hasked, cause, hanswer, rfl⟩ := hhop
        · cases he
          exact ⟨_, .fails, fun _ h => .unusable h hfault⟩
        · have hrecords := Course.Records.cons hasked
            (.fails (e := .protocol (.undecodable cause)))
          rw [List.append_nil] at hrecords
          exact ⟨_, hrecords, fun _ h => .undecodable h htakes hanswer⟩
      · obtain ⟨_, -, -, habsurd⟩ | ⟨hop, rfl, rfl, htakes, hasked, hanswer⟩ := hhop
        · cases habsurd
        obtain ⟨hreply, rfl, rfl⟩ | ⟨next, hreply, course, hrecords, hchases⟩ := hrest
        · exact ⟨_, .cons hasked .nil, fun _ h => .cons h htakes hanswer (.answered hreply)⟩
        · exact ⟨_, .cons hasked hrecords,
            fun _ h => .cons h htakes hanswer (hchases reply hreply)⟩

/-- A course is what becomes of a command after the replies of its nodes have been handed to it. -/
def Course.Concludes (limit : Nat) (part : Assignment × List (NodeAddress × Reply))
    (course : Course) : Prop :=
  if part.1.target.isMultiNode then course = ⟨[], .ok (.gather part.2)⟩
  else course.Chases limit part.1.command ((part.2.map Prod.snd).headD .null)

theorem sends_conclude (settings : Settings) (refreshed : Bool)
    (part : Assignment × List (NodeAddress × Reply)) :
    Sends (conclude settings refreshed part.1 part.2 : Call σ _).run fun sent result =>
      ∃ course : Course, course.Records refreshed sent result ∧
        course.Concludes settings.maxRedirects.toNat part := by
  have hpure (outcome : Outcome) : Sends (pure (outcome, refreshed) : Call σ _).run
      fun sent result => (⟨[], .ok outcome⟩ : Course).Records refreshed sent result := by
    refine (Sends.pureCall _).mono ?_
    rintro sent result - ⟨rfl, rfl⟩
    exact .nil
  unfold conclude Course.Concludes
  split
  · exact (hpure _).mono fun _ _ _ h => ⟨_, h, rfl⟩
  · dsimp only
    split
    · next redirect hredirect =>
      refine (sends_follow settings part.1.command _ refreshed redirect).mono ?_
      intro sent result _ h
      obtain ⟨course, hrecords, hchases⟩ := h
      exact ⟨course, hrecords, hchases _ hredirect⟩
    · next hnone => exact (hpure _).mono fun _ _ _ h => ⟨_, h, .answered hnone⟩

/-- What the courses of commands come to as a whole: the outcomes of all of them, or the error at
the end of the last one. -/
def Concluded (total : Nat) (courses : List Course) : Except Error (List Outcome) → Prop
  | .ok outcomes => courses.length = total ∧ courses.map Course.ending = outcomes.map .ok
  | .error e => ∃ outcomes : List Outcome,
      courses.map Course.ending = outcomes.map .ok ++ [.error e]

theorem asksOnce_append {asked : Bool} {hops more : List Hop} :
    AsksOnce asked (hops ++ more) ↔ AsksOnce asked hops ∧
      AsksOnce (asked || hops.any (·.redirect.kind = .moved)) more := by
  induction hops generalizing asked with
  | nil => simp [AsksOnce]
  | cons hop rest ih => simp [AsksOnce, ih, and_assoc, Bool.or_assoc]

theorem sends_concludeAll (settings : Settings) (refreshed : Bool)
    (delivered : List (Assignment × List (NodeAddress × Reply))) :
    Sends (concludeAll settings refreshed delivered : Call σ _).run fun sent result =>
      ∃ courses : List Course, sent = courses.flatMap Course.transmissions ∧
        AsksOnce refreshed (courses.flatMap Course.hops) ∧
        List.Forall₂ (Course.Concludes settings.maxRedirects.toNat)
          (delivered.take courses.length) courses ∧
        Concluded delivered.length courses result := by
  induction delivered generalizing refreshed with
  | nil =>
    refine (Sends.pureCall _).mono ?_
    rintro _ _ - ⟨rfl, rfl⟩
    exact ⟨[], rfl, trivial, .nil, rfl, rfl⟩
  | cons part rest ih =>
    refine (Sends.bindCall _ (sends_conclude settings refreshed part) fun concluded =>
      Sends.mapCall (concluded.1 :: ·) (ih concluded.2)).mono ?_
    intro sent result _ h
    obtain ⟨e, ⟨course, hrecords, hconcludes⟩, rfl⟩ |
      ⟨⟨outcome, after⟩, first, later, rfl, -, ⟨course, hrecords, hconcludes⟩, hrest⟩ := h
    · refine ⟨[course], ?_, ?_, .cons hconcludes .nil, [], ?_⟩
      · simpa using hrecords.sent_eq
      · simpa using hrecords.asksOnce
      · simp [hrecords.ending_eq]
    · have hfirst : course.ending = .ok outcome := hrecords.ending_eq
      have hafter : after = (refreshed || course.hops.any (·.redirect.kind = .moved)) :=
        hrecords.refreshed_eq rfl
      obtain ⟨e, ⟨courses, rfl, hasks, hall, outcomes, hend⟩, rfl⟩ |
        ⟨outcomes, ⟨courses, rfl, hasks, hall, hlength, hend⟩, rfl⟩ := hrest
      · refine ⟨course :: courses, ?_, ?_, .cons hconcludes hall, outcome :: outcomes, ?_⟩
        · rw [List.flatMap_cons, hrecords.sent_eq]
        · exact asksOnce_append.2 ⟨hrecords.asksOnce, hafter ▸ hasks⟩
        · simp [hfirst, hend]
      · refine ⟨course :: courses, ?_, ?_, .cons hconcludes hall, ?_, ?_⟩
        · rw [List.flatMap_cons, hrecords.sent_eq]
        · exact asksOnce_append.2 ⟨hrecords.asksOnce, hafter ▸ hasks⟩
        · simp [hlength]
        · simp [hfirst, hend]

def isFinal : Except ExchangeError Reply → Bool
  | .ok reply => (Redirect.ofReply? reply).isNone
  | .error _ => false

/-- The answers to a command: the first reply, then what each hop brought. -/
def Course.answers (first : Reply) (course : Course) : List (Except ExchangeError Reply) :=
  .ok first :: course.hops.map (·.transmission.answer)

theorem countP_of_chained {answer : Except ExchangeError Reply} {hops : List Hop}
    (h : Chained answer hops) :
    (answer :: hops.map (·.transmission.answer)).countP isFinal =
      if isFinal (lastAnswer answer hops) then 1 else 0 := by
  induction hops generalizing answer with
  | nil => exact List.countP_singleton
  | cons hop rest ih =>
    obtain ⟨⟨reply, rfl, hreply⟩, hrest⟩ := h
    have hnot : ¬isFinal (.ok reply) := by simp [isFinal, hreply]
    rw [List.countP_cons_of_neg hnot, List.map_cons, ih hrest, lastAnswer]

/-- A command that comes to an outcome has got one reply that is no redirect. -/
theorem Course.Chases.answered_once {limit : Nat} {command : Command} {first : Reply}
    {course : Course} {outcome : Outcome} (h : course.Chases limit command first)
    (hending : course.ending = .ok outcome) : (course.answers first).countP isFinal = 1 := by
  have hends := h.ends
  rw [hending] at hends
  rw [Course.answers, countP_of_chained h.chained]
  generalize lastAnswer (.ok first) course.hops = answer at hends ⊢
  cases hends with
  | answered hreply => simp [isFinal, hreply]

/-- What is sent for the commands of a pipeline that have been assigned to nodes, and what comes of
it: one frame for each node, then one course for each command up to the one that fails the call. -/
structure Chased (limit : Nat) (commands : List Command) (assignments : List Assignment)
    (dispatched later : List Transmission) (arrived : Except Error (List (List Reply)))
    (courses : List Course) (result : Except Error (List Outcome)) : Prop where
  assigned : List.Forall₂ Assignment.Serves commands assignments
  frames : Assignment.OneFrameEach assignments dispatched
  concludes : Dispatch.Concludes dispatched arrived
  later_eq : later = courses.flatMap Course.transmissions
  asksOnce : AsksOnce false (courses.flatMap Course.hops)
  length_le : courses.length ≤ commands.length
  chases : ∀ {i : Nat} {assignment : Assignment} {course : Course},
    assignments[i]? = some assignment → courses[i]? = some course →
      assignment.target.isMultiNode = false →
        ∃ node first, assignment.nodes = [node] ∧
          Assignment.ReceivedAt assignments dispatched i node first ∧
          course.Chases limit assignment.command first ∧
          ∀ outcome, course.ending = .ok outcome → (course.answers first).countP isFinal = 1
  stays : ∀ {i : Nat} {assignment : Assignment} {course : Course},
    assignments[i]? = some assignment → courses[i]? = some course →
      assignment.target.isMultiNode = true → course.hops = []
  concluded :
    match arrived with
    | .error e => courses = [] ∧ result = .error e
    | .ok _ => Concluded commands.length courses result

section Courses

variable {limit : Nat} {commands : List Command} {assignments : List Assignment}
  {assignment : Assignment} {dispatched : List Transmission} {replies : List (List Reply)}
  {courses : List Course} {course : Course} {i : Nat}

theorem concludes_getElem? {delivered : List (Assignment × List (NodeAddress × Reply))}
    {part : Assignment × List (NodeAddress × Reply)}
    (h : List.Forall₂ (Course.Concludes limit) (delivered.take courses.length) courses)
    (hpart : delivered[i]? = some part) (hcourse : courses[i]? = some course) :
    course.Concludes limit part := by
  obtain ⟨hi, -⟩ := List.getElem?_eq_some_iff.1 hcourse
  have htaken : (delivered.take courses.length)[i]? = some part := by
    rw [List.getElem?_take_of_lt hi, hpart]
  obtain ⟨course', hcourse', hconcludes⟩ := Fallible.exists_getElem?_of_forall₂ h htaken
  cases hcourse.symm.trans hcourse'
  exact hconcludes

/-- The course of a command that goes to one node starts at the reply at the command's place. -/
theorem chases_of_concludes (hserves : List.Forall₂ Assignment.Serves commands assignments)
    (hparcels : dispatched.map Transmission.parcel = Assignment.parcels assignments)
    (hresults : dispatched.map Transmission.result = replies.map .ok)
    (h : List.Forall₂ (Course.Concludes limit) ((Assignment.delivered assignments replies).take
      courses.length) courses)
    (hassignment : assignments[i]? = some assignment) (hcourse : courses[i]? = some course)
    (hsingle : assignment.target.isMultiNode = false) :
    ∃ node first, assignment.nodes = [node] ∧
      Assignment.ReceivedAt assignments dispatched i node first ∧
      course.Chases limit assignment.command first ∧
      ∀ outcome, course.ending = .ok outcome → (course.answers first).countP isFinal = 1 := by
  obtain ⟨node, first, hnode, hreceived, hpart⟩ :=
    Assignment.delivered_single hserves hparcels hresults hassignment hsingle
  have hconcludes := concludes_getElem? h hpart hcourse
  rw [Course.Concludes, if_neg (by simp [hsingle])] at hconcludes
  exact ⟨node, first, hnode, hreceived, hconcludes, fun _ => hconcludes.answered_once⟩

/-- A command that goes to several nodes is not sent anywhere else. -/
theorem stays_of_concludes
    (hparcels : dispatched.map Transmission.parcel = Assignment.parcels assignments)
    (hresults : dispatched.map Transmission.result = replies.map .ok)
    (h : List.Forall₂ (Course.Concludes limit) ((Assignment.delivered assignments replies).take
      courses.length) courses)
    (hassignment : assignments[i]? = some assignment) (hcourse : courses[i]? = some course)
    (hmulti : assignment.target.isMultiNode = true) : course.hops = [] := by
  obtain ⟨placed, hpart, -, -⟩ := Assignment.delivered_received hparcels hresults hassignment
  have hconcludes := concludes_getElem? h hpart hcourse
  rw [Course.Concludes, if_pos hmulti] at hconcludes
  rw [hconcludes]

end Courses

/-- How a pipeline runs. Questions about the topology may come first. Nothing else is sent unless
the commands are assigned to nodes. -/
inductive Runs (settings : Settings) (hint : Option Hint) (commands : List Command)
    (session : Session σ) : Except Error (List Outcome) → Session σ → Prop
  | unassigned {planned : Session σ} {queries : List Transmission} {e : Error}
    (hassign : (assign settings hint commands).run.run session = (.error e, planned))
    (hplanned : planned.history = session.history ++ queries)
    (hqueries : ∀ t ∈ queries, t.parcel = Discovery.parcel t.node) :
    Runs settings hint commands session (.error e) planned
  | assigned {planned answered final : Session σ} {queries dispatched later : List Transmission}
    {assignments : List Assignment} {arrived : Except Error (List (List Reply))}
    {courses : List Course} {result : Except Error (List Outcome)}
    (hassign : (assign settings hint commands).run.run session = (.ok assignments, planned))
    (hplanned : planned.history = session.history ++ queries)
    (hqueries : ∀ t ∈ queries, t.parcel = Discovery.parcel t.node)
    (hdispatch : (dispatch settings.replyLimit settings.backoff
      (Assignment.parcels assignments)).run.run planned = (arrived, answered))
    (hanswered : answered.history = planned.history ++ dispatched)
    (hfinal : final.history = answered.history ++ later)
    (hchased : Chased settings.maxRedirects.toNat commands assignments dispatched later arrived
      courses result) :
    Runs settings hint commands session result final

theorem chased_of_assign {settings : Settings} {hint : Option Hint} {commands : List Command}
    {session planned answered final : Session σ} {assignments : List Assignment}
    {arrived : Except Error (List (List Reply))} {result : Except Error (List Outcome)}
    (hassign : (assign settings hint commands).run.run session = (.ok assignments, planned))
    (hdispatch : (dispatch settings.replyLimit settings.backoff
      (Assignment.parcels assignments)).run.run planned = (arrived, answered))
    (hrun : (onCluster settings hint commands).run.run session = (result, final)) :
    ∃ dispatched later, answered.history = planned.history ++ dispatched ∧
      final.history = answered.history ++ later ∧
      ((∀ t ∈ dispatched ++ later, t.isLost = false) → ∃ courses,
        Chased settings.maxRedirects.toNat commands assignments dispatched later arrived courses
          result) := by
  obtain ⟨router, hplan⟩ := Discovery.run_routed hassign
  have hserves := Assignment.serves_of_ofCommands hplan
  obtain ⟨dispatched, hanswered, hspec⟩ := sends_dispatch settings.replyLimit settings.backoff
    (Assignment.parcels assignments) planned
  rw [hdispatch] at hanswered hspec
  cases arrived with
  | error e =>
    cases (run_onCluster_of_error hassign hdispatch).symm.trans hrun
    refine ⟨dispatched, [], hanswered, (List.append_nil _).symm, fun hkept => ⟨[], ?_⟩⟩
    rw [List.append_nil] at hkept
    obtain ⟨hparcels, hconcludes⟩ := hspec hkept
    exact ⟨hserves, Assignment.oneFrameEach_of_parcels hparcels, hconcludes, rfl, trivial,
      Nat.zero_le _, nofun, nofun, rfl, rfl⟩
  | ok replies =>
    obtain ⟨later, hfinal, hlater⟩ := sends_concludeAll settings false
      (Assignment.delivered assignments replies) answered
    rw [run_onCluster_of_ok hassign hdispatch] at hrun
    rw [hrun] at hfinal hlater
    refine ⟨dispatched, later, hanswered, hfinal, fun hkept => ?_⟩
    obtain ⟨hdispatchedKept, hlaterKept⟩ := List.forall_mem_append.1 hkept
    obtain ⟨hparcels, hresults⟩ := hspec hdispatchedKept
    obtain ⟨courses, hsent, hasks, hall, hconcluded⟩ := hlater hlaterKept
    rw [Assignment.length_delivered, ← hserves.length_eq] at hconcluded
    have hlength : courses.length ≤ commands.length := by
      have htaken := hall.length_eq
      rw [List.length_take, Assignment.length_delivered, ← hserves.length_eq] at htaken
      omega
    exact ⟨courses, hserves, Assignment.oneFrameEach_of_parcels hparcels, hresults, hsent, hasks,
      hlength, chases_of_concludes hserves hparcels hresults hall,
      stays_of_concludes hparcels hresults hall, hconcluded⟩

/-- Each command is sent along one chain of redirects, and nothing else is sent twice. -/
theorem onCluster_chases {settings : Settings} {hint : Option Hint} {commands : List Command}
    {session final : Session σ} {result : Except Error (List Outcome)}
    (hrun : (onCluster settings hint commands).run.run session = (result, final))
    (hkept : ∀ t ∈ session.since final, t.isLost = false) :
    Runs settings hint commands session result final := by
  obtain ⟨queries, hplanned, hqueries⟩ := Discovery.onlyAsks_routed settings
    (fun topology => Assignment.ofCommands topology hint commands) session
  change ((assign settings hint commands).run.run session).2.history = _ at hplanned
  rcases hassign : (assign settings hint commands).run.run session with ⟨assigned, planned⟩
  rw [hassign] at hplanned
  cases assigned with
  | error e =>
    cases (Fallible.run_bind_of_error hassign).symm.trans hrun
    rw [Session.since_eq hplanned] at hkept
    exact .unassigned hassign hplanned (hqueries hkept)
  | ok assignments =>
    rcases hdispatch : (dispatch settings.replyLimit settings.backoff
      (Assignment.parcels assignments)).run.run planned with ⟨arrived, answered⟩
    obtain ⟨dispatched, later, hanswered, hfinal, hchased⟩ :=
      chased_of_assign hassign hdispatch hrun
    have hhistory : final.history = session.history ++ (queries ++ (dispatched ++ later)) := by
      rw [hfinal, hanswered, hplanned, List.append_assoc, List.append_assoc]
    rw [Session.since_eq hhistory] at hkept
    obtain ⟨hqueriesKept, hrest⟩ := List.forall_mem_append.1 hkept
    obtain ⟨courses, hchased⟩ := hchased hrest
    exact .assigned hassign hplanned (hqueries hqueriesKept) hdispatch hanswered hfinal hchased

set_option maxRecDepth 4000 in
/-- A command that is moved to another node and from there sent back for once. The search for a
newer topology after the first redirect finds none. -/
theorem onCluster_chases_there_and_back :
    let session := halves ["-ERR\r\n", "-ASK 15495 upper:2\r\n"]
      ["-MOVED 15495 lower:1\r\n", "-ERR\r\n", "+OK\r\n$1\r\nx\r\n"]
    let commands : List Command := [⟨"GET", [.text "a"]⟩]
    let concluded := (onCluster {} none commands).run.run session
    concluded.1.isOk ∧ concluded.2.log.length = 5 ∧
      Runs {} none commands session concluded.1 concluded.2 := by
  intro session commands concluded
  have hkept : ∀ t ∈ session.since concluded.2, t.isLost = false := by decide +kernel
  exact ⟨by decide +kernel, by decide +kernel, onCluster_chases (Prod.eta concluded).symm hkept⟩

end Pipeline

end ClusterBatch
