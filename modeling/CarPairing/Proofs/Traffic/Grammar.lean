import CarPairing.Proofs.Association.Exact
import CarPairing.Proofs.Association.Spoken
import CarPairing.Proofs.Reconnect.Spoken

/-!
The grammar of what the head unit puts on the stream. Nothing counts the frames;
that there are two of a handshake at the most, in their order, is because state,
lifecycle and runner go together over everything that can be done to a channel.
-/

namespace CarPairing

open Channel Agreement

/-- Whatever is done to a channel with the real key agreement, over any storage:
it writes its reply, then the second frame of its handshake, and then messages of
the application. The second frame is the id of the storage, sealed under the key
that was accepted, or the proof that answers that of the peer. A call writes one
frame at the most, and one of the application only on an established channel; no
nonce is used twice. -/
theorem outbound_grammar {σ : Type} [KeyStorage σ] (runner : Agreement)
    (role : runner.role = .responder) (idle : runner.phase = .idle) (storage : σ)
    (entropy : Entropy) (now : Int) :
    ((reply entropy).recipient = none ∧ (reply entropy).encrypted = false ∧
      (reply entropy).payload = serverInitOf entropy ∧ (reply entropy).payload.length = 65) ∧
    (∀ calls : List Association.Call,
      let start := Association.unpaired runner storage entropy now
      let car := Association.performAll calls start
      Grammatical (reply entropy) (Association.Accepted start calls) car ∧
        ∀ call, Writes car (Association.perform call car)) ∧
    ∀ (device : String) (calls : List Reconnect.Call),
      let start := Reconnect.paired runner device storage entropy now
      let car := Reconnect.performAll calls start
      Grammatical (reply entropy) (Reconnect.Verified start calls) car ∧
        ∀ call, Writes car (Reconnect.perform call car) := by
  refine ⟨⟨rfl, rfl, rfl, (framed_serverInit entropy).1⟩, ?_, ?_⟩
  · intro calls start car
    have spoken := Association.performAll_spoken runner role idle storage entropy now calls
    refine ⟨spoken.grammatical rfl, fun call => ?_⟩
    have step :=
      Association.next_spokenStep runner role idle storage entropy now calls call spoken
    exact step.writes
  · intro device calls start car
    have spoken := Reconnect.performAll_spoken runner role idle storage device entropy now calls
    refine ⟨spoken.grammatical rfl, fun call => ?_⟩
    exact (Reconnect.next_spokenStep runner role idle storage device entropy now calls call
      spoken).writes

-- A memory that holds one key is paired with anew, and the phone that it is of
-- resumes: both times there are two frames.
theorem outbound_grammar_memory :
    let runner : Agreement := { role := .responder }
    let own : Entropy := { byteAt := fun _ => 1 }
    let peer : Entropy := { byteAt := fun _ => 2 }
    let view := honestResponder own peer
    let key : Key := ⟨List.replicate 32 3, rfl⟩
    let storage : MemoryStorage := ⟨({} : KeyStore).withKey "phone" key 0⟩
    let pairing := Association.unpaired runner storage own 0
    let accepted := Association.untilAccepted peer
    let resuming := Reconnect.paired runner "phone" storage own 0
    let proven : List Reconnect.Call := [.frame view.clientInit, .frame view.clientFinish,
      .frame (resumeMac key view.secrets.auth clientLabel)]
    (Grammatical (reply own) (Association.Accepted pairing accepted)
        (Association.performAll accepted pairing) ∧
      ∃ id, Association.Accepted pairing accepted id ∧
        (.handshake, id) ∈ outbound (Association.performAll accepted pairing)) ∧
    Grammatical (reply own) (Reconnect.Verified resuming proven)
        (Reconnect.performAll proven resuming) ∧
      ∃ proof, Reconnect.Verified resuming proven proof ∧
        (.handshake, proof) ∈ outbound (Reconnect.performAll proven resuming) := by
  intro runner own peer view key storage pairing accepted resuming proven
  obtain ⟨-, pairs, resumes⟩ := outbound_grammar runner rfl rfl storage own 0
  obtain ⟨associates, -⟩ := pairs accepted
  obtain ⟨reconnects, -⟩ := resumes "phone" proven
  refine ⟨⟨associates, associates.through (.inr ?_)⟩, reconnects, reconnects.through (.inl ?_)⟩
  · obtain ⟨entropy, car, reached, active, finished, -⟩ :=
      Association.performAll_untilAccepted runner rfl rfl storage own peer 0 fun _ => ⟨_, rfl⟩
    exact ⟨reached ▸ active, reached ▸ finished⟩
  · have known : KeyStorage.key? storage "phone" = some key :=
      KeyStore.key_withKey {} "phone" key 0
    have saved := storage.saveKey_named 0 (resumedKey key view.secrets.next)
      (show "phone" ≠ "" by decide)
    exact (Reconnect.resumes_known runner rfl rfl storage "phone" own 0 key view _ rfl known saved
      _ rfl).1

end CarPairing
