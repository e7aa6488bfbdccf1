import DocQuery.Rest.Request
import DocQuery.Rest.Response
import DocQuery.Settings.Connection

namespace DocQuery.Rest

open Store (Call Server)

/-- The other side, with states `π`. It answers a request or leaves it without an answer. -/
abbrev Peer (π : Type) := Request → π → Option Response × π

structure Client where
  settings : ConnectionSettings
  base : Web.BaseUrl
deriving DecidableEq

namespace Client

def ofSettings (settings : ConnectionSettings) : Except SettingsError Client := do
  settings.validate
  let base ← (Web.BaseUrl.parse settings.baseUrl).mapError (.invalidUrl settings.baseUrl)
  if Web.isHeaderValue settings.apiKey then return ⟨settings, base⟩
  else throw .illegalKey

def request (c : Client) (call : Call) : Request :=
  .ofCall c.settings.schema call

def answer {π : Type} (c : Client) (peer : Peer π) (call : Call) (state : π) :
    Except Store.Error call.Reply × π :=
  if (c.request call).isSendable then
    let (response, state) := peer (c.request call) state
    match response with
    | some r => (r.reply call, state)
    | none => (.error .transport, state)
  else (.error .transport, state)

def server {π : Type} (c : Client) (peer : Peer π) : Server π :=
  ⟨c.answer peer⟩

end Client

end DocQuery.Rest
