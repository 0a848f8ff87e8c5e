import CarPairing.Handshake.Agreement

/-!
A runner that answers from a list, whatever it is asked: what any runner may do
to a channel, a list of answers can do to it.
-/

namespace CarPairing

inductive ScriptedRunner where
  | agreement (runner : Agreement)
  | answers (rest : List Answer)

namespace ScriptedRunner

/-- The refusal after the last answer. -/
def exhausted (request : Request) : HandshakeError :=
  .unexpectedCall request.name "script_exhausted"

def isScript : ScriptedRunner → Bool
  | .agreement _ => false
  | .answers _ => true

instance : Runner ScriptedRunner where
  answer
    | .agreement runner, request, entropy =>
        let (answer, runner, entropy) := Runner.answer runner request entropy
        (answer, .agreement runner, entropy)
    | .answers [], request, entropy => (.error (exhausted request), .answers [], entropy)
    | .answers (answer :: rest), _, entropy => (answer, .answers rest, entropy)
  setReconnect
    | .agreement runner, on => .agreement (Runner.setReconnect runner on)
    | .answers rest, _ => .answers rest

end ScriptedRunner

end CarPairing
