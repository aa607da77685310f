import Waymark.Proofs.Server.Documents

/-! Where a server can come to. Requests are carried out in any order, and in between anything may
happen on the machine. What holds at the start and is kept by each of these holds of every world
that is reached, and a server that serves a stream stays among them. -/

namespace Waymark.World
variable {w w' : World}

/-- What may happen next: a request is carried out, messages are sent, or something is done on the
machine by others. -/
inductive Next : World → World → Prop
  | request {w : World} (request : Request) : Next w (w.dispatch request).2
  | sent {w : World} (seq : Nat) : Next w (w.withServer { w.server with seq })
  | machine {w : World} (host : Host) : Next w { w with host }

/-- The worlds that a server comes to, with any settings and on any machine. -/
inductive Reached : World → Prop
  | start (settings : Settings) (host : Host) : Reached ⟨.ofSettings settings, host⟩
  | next {w w' : World} : Reached w → Next w w' → Reached w'

theorem Reached.dispatch (h : w.Reached) (request : Request) : (w.dispatch request).2.Reached :=
  h.next (.request request)

/-- The world after requests, one after the other. -/
def dispatchAll (w : World) (requests : List Request) : World :=
  requests.foldl (fun w request => (w.dispatch request).2) w

theorem Reached.dispatchAll (h : w.Reached) (requests : List Request) :
    (w.dispatchAll requests).Reached := by
  induction requests generalizing w with
  | nil => exact h
  | cons request requests ih => exact ih (h.dispatch request)

theorem Reached.sendAll (h : w.Reached) (contents : List Content) :
    (w.sendAll contents).2.Reached := by
  induction contents generalizing w with
  | nil => exact h
  | cons content contents ih => exact ih (h.next (.sent _))

theorem Reached.stripAll (h : w.Reached) (uris : List String) : (w.stripAll uris).Reached := by
  induction uris generalizing w with
  | nil => exact h
  | cons uri uris ih =>
    have hpin : (w.pin .remove uri).2.Reached := h.dispatch (.removeMarkers uri)
    unfold World.stripAll
    unfold pin Server.document at hpin
    cases hdoc : w.server.documents.get? uri with
    | none => exact ih h
    | some doc =>
      rw [hdoc] at hpin
      exact ih hpin

theorem Reached.respond (h : w.Reached) (contents : List (Except Error Content)) :
    (w.respond contents).world.Reached :=
  h.sendAll _

theorem Reached.handle (h : w.Reached) (seq : Nat) (command : String) (arguments : Option Json) :
    (w.handle seq command arguments).world.Reached := by
  unfold World.handle
  split
  · exact h.sendAll _
  · exact (h.stripAll _).sendAll _
  · next request _ _ =>
    have hdispatch := h.dispatch request
    split <;> next heq =>
      rw [heq] at hdispatch
      exact hdispatch.respond _

theorem Reached.receive {body : Bytes} {answer : Answer} (h : w.Reached)
    (hreceive : w.receive body = .ok answer) : answer.world.Reached := by
  unfold World.receive at hreceive
  split at hreceive
  · cases hreceive
  · split at hreceive <;> obtain rfl := Except.ok.inj hreceive
    · exact h.handle _ _ _
    · exact h

/-- A server that serves a stream comes to no other worlds, neither on its way nor at its end. -/
theorem Reached.serve (h : w.Reached) (input : Bytes) :
    (∀ w' rest, Served w input w' rest → w'.Reached) ∧ (w.serve input).world.Reached := by
  have hserved : ∀ w' rest, Served w input w' rest → w'.Reached := by
    intro w' rest hserved
    induction hserved with
    | start => exact h
    | next _ _ hreceive _ ih => exact ih.receive hreceive
  refine ⟨hserved, ?_⟩
  obtain ⟨w', rest, hreached, hexit⟩ := exists_exit w input
  have hw' := hserved w' rest hreached
  generalize (w.serve input).result = result, (w.serve input).world = final at hexit ⊢
  cases hexit with
  | badFrame _ => exact hw'
  | badBody _ _ => exact hw'
  | endOfInput _ => exact hw'.stripAll _
  | disconnect _ hreceive _ => exact hw'.receive hreceive
  | unsent _ hreceive _ => exact hw'.receive hreceive

/-- What every step of a request keeps, and what happens on the machine does not touch, holds of
every world that is reached. -/
theorem Reached.keep {P : World → Prop} (hstart : ∀ settings host, P ⟨.ofSettings settings, host⟩)
    (hchange : ∀ w w', Change (fun _ => True) w w' → P w → P w')
    (hmachine : ∀ (w : World) (host : Host), P w → P { w with host }) (h : w.Reached) : P w := by
  induction h with
  | start settings host => exact hstart settings host
  | next _ hnext ih =>
    cases hnext with
    | request request => exact (changes_dispatch trivial).keep hchange ih
    | sent seq => exact hchange _ _ (.server rfl (.inl rfl)) ih
    | machine host => exact hmachine _ host ih

theorem Reached.orderly (h : w.Reached) : w.Orderly :=
  h.keep orderly_ofSettings (fun _ _ => orderly_change) fun _ _ h => h

/-- Next to nothing happens to the documents unless a request is carried out. -/
theorem documents_next (h : Next w w') : w'.server.documents = w.server.documents ∨
    ∃ request, w' = (w.dispatch request).2 := by
  cases h with
  | request request => exact .inr ⟨request, rfl⟩
  | sent seq => exact .inl rfl
  | machine host => exact .inl rfl

/-- What holds of a new session and is kept by every turn holds of all sessions at all times. -/
theorem Reached.session {P : Session → Prop} (hfresh : ∀ uri, P (.ofUri uri))
    (hturn : ∀ request s s', Session.Turn request s s' → P s → P s') (h : w.Reached) :
    ∀ uri doc, w.server.documents.get? uri = some doc → P doc.session := by
  induction h with
  | start => exact fun _ _ hdoc => nomatch hdoc
  | @next w w' h hnext ih =>
    obtain hsame | ⟨request, rfl⟩ := documents_next hnext
    · rwa [hsame]
    · intro uri
      have hfares := faring_dispatch h.orderly request uri
      -- The entry of the document is followed from turn to turn.
      generalize (w.dispatch request).2.server.documents.get? uri = entry at hfares
      induction hfares with
      | refl => exact ih uri
      | tail _ hturn' ih' =>
        cases hturn' with
        | turn editor _ hgoes =>
          intro doc hdoc
          obtain rfl := Option.some.inj hdoc
          exact hturn _ _ _ hgoes (ih' _ rfl)
        | opened editor _ _ =>
          intro doc hdoc
          obtain rfl := Option.some.inj hdoc
          exact hfresh uri
        | closed _ => exact fun _ hdoc => nomatch hdoc

end Waymark.World
