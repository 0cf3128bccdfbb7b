import WebATM.Client.Discovery
import WebATM.Wire.Convert

/-!
# Data frames

`_process_data_message` parses a frame read from the SUB socket, sets the dispatch
context for the shared-state topics, and calls the topic's subscribers with the arguments
BlueSky's calling conventions give. This file models the client's part: the header parse,
the context update and the call it makes, and Python's binding of a call's arguments to a
handler's parameters, which decides whether the handler runs at all.
-/

namespace WebATM

/-- A frame read from the SUB socket: its header, and its payload as
`msgpack.unpackb(raw=False)` decodes it; `none` when the payload frame is missing or does
not decode. -/
structure DataMsg where
  header : Bytes
  payload : Option Value

/-- The arguments of a call, positional and keyword. -/
structure Args where
  pos : List Value
  kw : List (String × Value)

/-- `subscriber.emit(topic, *args, **kwargs)`. -/
structure Delivery where
  topic : String
  args : Args

/-- A handler's parameters: their names, how many trailing ones default to `None`, and
whether it takes `*args` and `**kwargs`. -/
structure Signature where
  params : List String
  defaults : Nat
  varargs : Bool
  varkw : Bool

/-- A keyword argument put into the parameter it names. -/
def fillKeyword (sig : Signature) (slots : List (Option Value)) (kv : String × Value) :
    Option (List (Option Value)) :=
  match sig.params.findIdx? (· == kv.1) with
  | some j => if (slots.getD j none).isSome then none else some (slots.set j (some kv.2))
  | none => if sig.varkw then some slots else none

/-- Python's binding of a call to a signature: the value of every parameter, or `none`
for the `TypeError` of too many positional arguments, an unknown or repeated keyword, or
a missing argument. -/
def Signature.bind (sig : Signature) (args : Args) : Option (List Value) :=
  if sig.params.length < args.pos.length ∧ !sig.varargs then none
  else do
    let slots ← args.kw.foldlM (fillKeyword sig) (sig.params.enum.map fun p => args.pos.get? p.1)
    slots.enum.mapM fun s =>
      s.2.orElse fun _ => if sig.params.length - sig.defaults ≤ s.1 then some .none else none

/-- The parameters of each handler `register_subscribers` installs. -/
def Callback.signature : Callback → Signature
  | .onSiminfoReceived =>
    ⟨["speed", "simdt", "simt", "simutc", "ntraf", "state", "scenname", "sender_id"], 1,
      false, false⟩
  | .onAcdataReceived | .onRoutedataReceived | .onStackReceived => ⟨["data"], 0, false, false⟩
  | .echo => ⟨["text", "flags", "sender_id"], 2, false, false⟩
  | .onStackcmdsReceived => ⟨["action", "data"], 0, false, false⟩
  | .onResetReceived => ⟨["data"], 1, true, true⟩
  | .onPolyReceived | .onRequestReceived | .onPlotReceived | .onShowdialogReceived
  | .onSimsettingsReceived | .onTrailsReceived | .onDefwptReceived => ⟨["data"], 0, true, true⟩

/-- The keyword arguments of `**data`; `none` for the `TypeError` of a key that is not a
string. -/
def kwargsOf : List (Key × Value) → Option (List (String × Value))
  | [] => some []
  | (.str k, v) :: rest => ((k, v) :: ·) <$> kwargsOf rest
  | (.bin _, _) :: _ => none

/-- The call the generic branch makes: `**data` for a dictionary, `*data` for a list, no
argument for `""`, and the payload itself otherwise. -/
def genericArgs : Value → Option Args
  | .dict entries => (⟨[], ·⟩) <$> kwargsOf entries
  | .list items => some ⟨items, []⟩
  | .str "" => some ⟨[], []⟩
  | data => some ⟨[data], []⟩

/-- The call for an `ECHO` frame: text, flags and sender, the header's sender filling in
what the payload lacks. -/
def echoArgs (sender : Bytes) : Value → Args
  | .list items =>
    match items with
    | [] => ⟨[.str "", .int 0, .bin sender], []⟩
    | [d0] => ⟨[d0, .int 0, .bin sender], []⟩
    | [d0, d1] => ⟨[d0, d1, .bin sender], []⟩
    | _ => ⟨items, []⟩
  | .dict entries =>
    ⟨[(dictGet entries (.str "text")).getD (.str ""), (dictGet entries (.str "flags")).getD (.int 0),
      (dictGet entries (.str "sender_id")).getD (.bin sender)], []⟩
  | data => ⟨[.str (pyStr data), .int 0, .bin sender], []⟩

/-- The topics whose payload is a shared-state pair `[action_type, data]`. -/
def isSharedStateTopic (topic : String) : Bool :=
  topic == "ACDATA" || topic == "ROUTEDATA" || topic == "POLY"

/-- The `SIMINFO` call with seven or more items: the items, and the sender as the keyword
`sender_id`. -/
def siminfoCall (topic : String) (sender : Bytes) : Value → Option Delivery
  | .list items =>
    if topic = "SIMINFO" ∧ 7 ≤ items.length then
      some ⟨topic, ⟨items, [("sender_id", .bin sender)]⟩⟩
    else none
  | _ => none

namespace BlueSkyClient

/-- A shared-state payload: a pair sets the context to its action and the header's
sender and passes on its body; anything else is passed on whole, leaving the context as
it was. (`context.Reset` and `context.ActChange` are the strings `"RESET"` and
`"ACTCHANGE"`, so the action stored is the pair's first item in every case.) -/
def sharedState (c : BlueSkyClient) (topic : String) (sender : Bytes) :
    Value → BlueSkyClient × Option Delivery
  | .list [action, body] =>
    ({ c with context := ⟨action, some sender⟩ }, some ⟨topic, ⟨[body], []⟩⟩)
  | data => (c, some ⟨topic, ⟨[data], []⟩⟩)

/-- `_process_data_message(msg)`: a header of at least `2 * IDLEN` bytes is
`to_group + topic + sender`; the topic must decode as UTF-8 and be non-empty, and the
payload must decode. Then `siminfoCall`, the shared-state topics through `sharedState`,
`ECHO` through `echoArgs`, and every other topic through the generic branch. -/
def processDataMessage (c : BlueSkyClient) (m : DataMsg) : BlueSkyClient × Option Delivery :=
  if m.header.length < idlen * 2 then (c, none)
  else
    match utf8Decode ((m.header.drop idlen).take (m.header.length - 2 * idlen)), m.payload with
    | some topic, some data =>
      let sender := m.header.drop (m.header.length - idlen)
      if topic = "" then (c, none)
      else match siminfoCall topic sender data with
        | some d => (c, some d)
        | none =>
          if isSharedStateTopic topic then c.sharedState topic sender data
          else if topic = "ECHO" then (c, some ⟨topic, echoArgs sender data⟩)
          else (c, (⟨topic, ·⟩) <$> genericArgs data)
    | _, _ => (c, none)

/-- The callbacks subscribed to a topic, in the order they were registered. -/
def subscribersOf (c : BlueSkyClient) (topic : String) : List Callback :=
  (c.subscribers.filter (·.1 = topic)).map (·.2)

end BlueSkyClient

end WebATM
