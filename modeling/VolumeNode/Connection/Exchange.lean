import VolumeNode.Connection.Lines
import VolumeNode.Node.Lifecycle
import VolumeNode.Request.Wire
import VolumeNode.Response.Wire
import VolumeNode.Text.Blank
import VolumeNode.Text.Utf8

/-!
# What is said on a connection

Each line that is not blank holds a request and gets a response, in order. A line that is no text
ends the connection; a line that is no request is answered, and that is all. Main statements:

* `serve_blank`: a blank line is passed over.
* `respond_of_error`: a line that is no request asks nothing of the world.
-/

namespace VolumeNode.Connection

/-- The response to a line. -/
def respond (c : Config) (line : String) : Program Action.interface Response :=
  match Request.decode line.toList with
  | .ok r => Node.handle c r
  | .error f => .done (Response.ofResult (.error (.malformed (f.message line.toList))))

/-- The responses to lines, up to the first that is no text. -/
def serve (c : Config) : List (List UInt8) → Program Action.interface (List Response)
  | [] => .done []
  | line :: rest =>
    match Text.Utf8.decode? line with
    | none => .done []
    | some text =>
      if Text.isBlankText text then serve c rest
      else
        (respond c text).bind fun first => (serve c rest).bind fun others => .done (first :: others)

/-- Responses as they are sent, one on a line. -/
def written (rs : List Response) : Output :=
  rs.flatMap fun r => Text.Utf8.encode (r.encode ++ "\n")

/-- What is sent back for the octets that a client has sent. -/
def exchange (c : Config) (sent : Output) : Program Action.interface Output :=
  (serve c (lines sent)).bind fun rs => .done (written rs)

theorem serve_blank {c : Config} {line : List UInt8} {text : String} (rest : List (List UInt8))
    (hd : Text.Utf8.decode? line = some text) (hb : Text.isBlankText text = true) :
    serve c (line :: rest) = serve c rest := by
  simp [serve, hd, hb]

theorem respond_of_error {c : Config} {line : String} {f : Json.Fault}
    (h : Request.decode line.toList = .error f) :
    respond c line = .done (Response.ofResult (.error (.malformed (f.message line.toList)))) := by
  simp [respond, h]

end VolumeNode.Connection
