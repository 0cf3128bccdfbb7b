import WebATM.Proxy.Lifecycle

/-!
# The topic handlers

The callbacks `register_subscribers` installs on the client, each as a function of the
proxy, the clock and the handler's parameters. A handler that raises stops where it
raised: what it had already written stays, which is why several of them are written with
`Except Proxy Proxy`, the error carrying the state at the point of the exception.
-/

namespace WebATM

/-- The elements at even positions of a list, `xs[0::2]`. -/
def everyOther {α : Type} : List α → List α
  | [] => []
  | [a] => [a]
  | a :: _ :: rest => a :: everyOther rest

/-- A dictionary key as a value. -/
def Key.toValue : Key → Value
  | .str s => .str s
  | .bin b => .bin b

/-- Whether a dictionary has a string key. -/
def hasKey (entries : List (Key × Value)) (key : String) : Bool :=
  (dictGet entries (.str key)).isSome

/-- The flat `coordinates` list `[lat1, lon1, lat2, lon2, ...]` of a shape split into
`lat` and `lon` lists, with the shape's `name`, when there are at least `minLength` numbers
and no `lat`/`lon` yet. -/
def withLatLon (info : List (Key × Value)) (name : Key) (minLength : Nat) : List (Key × Value) :=
  if hasKey info "coordinates" ∧ ¬(hasKey info "lat" ∧ hasKey info "lon") then
    match dictGet info (.str "coordinates") with
    | some (.list coords) =>
      if minLength ≤ coords.length then
        dictSet (dictSet (dictSet info (.str "lat") (.list (everyOther coords))) (.str "lon")
          (.list (everyOther coords.tail))) (.str "name") name.toValue
      else info
    | _ => info
  else info

/-- One shape of the `polys` loop, filed as a polygon (`true`) or a polyline (`false`):
`LINE` shapes are polylines, `POLYALT` becomes `POLY`, and anything else, including a
shape that is not a dictionary, is a polygon. -/
def classifyShape (name : Key) : Value → Bool × Value
  | .dict info =>
    let shape := (dictGet info (.str "shape")).getD (.str "POLY")
    if pyEq shape (.str "LINE") then (false, .dict (withLatLon info name 4))
    else if pyEq shape (.str "POLYALT") then
      (true, .dict (withLatLon (dictSet info (.str "shape") (.str "POLY")) name 6))
    else (true, .dict (withLatLon info name 6))
  | info => (true, info)

/-- The `polys` loop: polygons and polylines by name, in order. -/
def splitShapes : List (Key × Value) → List (Key × Value) × List (Key × Value)
  | [] => ([], [])
  | (name, info) :: rest =>
    let r := splitShapes rest
    match classifyShape name info with
    | (true, v) => ((name, v) :: r.1, r.2)
    | (false, v) => (r.1, (name, v) :: r.2)

/-- `{"polys": shapes}` when there are shapes, `{}` otherwise. -/
def shapesOrEmpty (shapes : List (Key × Value)) : Value :=
  if shapes.isEmpty then .emptyDict else .dict [(.str "polys", .dict shapes)]

/-- `_separate_poly_and_polyline_data`: the polygons and the polylines of a converted
`POLY` body. A body without a `polys` dictionary is kept whole as the polygons. -/
def separatePolyAndPolylineData (polyData : Value) : Value × Value :=
  match polyData with
  | .dict entries =>
    match dictGet entries (.str "polys") with
    | some (.dict items) =>
      let r := splitShapes items
      (shapesOrEmpty r.1, shapesOrEmpty r.2)
    | _ => (polyData, .emptyDict)
  | _ => (polyData, .emptyDict)

/-- The aircraft table `on_acdata_received` stores and pushes on a reset. -/
def resetTraffic : Value :=
  .dict [(.str "id", .list []), (.str "lat", .list []), (.str "actype", .list []),
    (.str "lon", .list []), (.str "alt", .list []), (.str "tas", .list []), (.str "trk", .list []),
    (.str "vs", .list []), (.str "inconf", .list []), (.str "tcpamax", .list []),
    (.str "nconf_cur", .int 0), (.str "nconf_tot", .int 0), (.str "nlos_cur", .int 0),
    (.str "nlos_tot", .int 0)]

/-- `conv(x) if x is not None else default`. -/
def convOr (x : Value) (conv : Value → Option Value) (default : Value) : Option Value :=
  match x with
  | .none => some default
  | x => conv x

/-- The `sim_data` dictionary of `on_siminfo_received`; `none` when a conversion raises. -/
def simInfoData (speed simdt simt simutc ntraf state scenname : Value) (sender : String) :
    Option Value := do
  let toFloat := fun v => Value.float <$> pyFloat v
  let toInt := fun v => Value.int <$> pyInt v
  let toStr := fun v => some (Value.str (pyStr v))
  pure (.dict [(.str "speed", ← convOr speed toFloat (.float (.finite 0))),
    (.str "simdt", ← convOr simdt toFloat (.float (.finite 0))),
    (.str "simt", ← convOr simt toFloat (.float (.finite 0))),
    (.str "simutc", ← convOr simutc toStr (.str "")), (.str "ntraf", ← convOr ntraf toInt (.int 0)),
    (.str "state", ← convOr state toInt (.int 0)), (.str "scenname", ← convOr scenname toStr (.str "")),
    (.str "sender_id", .str sender)])

/-- `_execute_local_command(cmd, argstring)`. -/
def executeLocalCommand (cmd argstring : String) : Bool × String :=
  if cmd = "HELP" ∨ cmd = "?" then
    if argstring = "" then (true, "BlueSky Web Client: Enter commands to control simulation")
    else (true, "Help for " ++ argstring ++ ": Command forwarded to server")
  else (false, "Local command " ++ cmd ++ " not implemented in web client")

namespace Proxy

/-- `ctx.sender_id.hex()` when the client's dispatch context holds a sender. -/
def contextSender (p : Proxy) : Option String :=
  match p.client.bind (·.context.senderId) with
  | some s => if s ≠ [] then some (hex s) else none
  | none => none

/-- `_echo_response(text, flags)` at time `now`. -/
def echoResponse (p : Proxy) (text : String) (flags : Int) (now : Int) : Proxy :=
  let echoData := Value.dict [(.str "text", .str text), (.str "flags", .int flags),
    (.str "timestamp", timestamp now)]
  { p with echoData := echoData }.broadcast "echo" echoData

/-- The throttled push of a handler: when a consumer is connected and the interval since
the last push has passed, push and record the time. -/
def throttledPush (p : Proxy) (event : String) (data : Value) (last : Int) (interval : Int)
    (now : Int) (record : Proxy → Int → Proxy) : Proxy :=
  if p.socketio ∧ 0 < p.connectedClients ∧ interval ≤ now - last then
    record (p.broadcast event data) now
  else p

/-- The record update of `on_siminfo_received` for the node `s`: a tracked node gets the
scenario name as its status and the simulated time as `HH:MM:SS`, and the node directory is
pushed at every fifth simulated second. The error carries the state reached when a
conversion raises. -/
def updateNodeStatus (p : Proxy) (s : String) (simt scenname : Value) : Except Proxy Proxy :=
  match assocGet p.trackedNodes s with
  | some r =>
    if s = "" then .ok p
    else
      let simtStr : Option String := match simt with
        | .none => some "00:00:00"
        | t => (fun txt => String.mk (txt.toList.take (txt.length - 3))) <$> tim2txt t
      match simtStr with
      | none => .error p
      | some txt =>
        let status := if scenname.truthy then scenname else .str "init"
        let record := { r with status := status, time := txt }
        let p := { p with trackedNodes := upsert p.trackedNodes s record }
        match (if simt.truthy then pyInt simt else some 0) with
        | none => .error p
        | some n => .ok (if n % 5 = 0 then p.emitNodeInfo else p)
  | none => .ok p

/-- `on_siminfo_received` at time `now`: store the converted simulation info, update the
sender's record, and push at most every `siminfo_interval`. A sender that is neither bytes
nor truthy makes the handler import `bluesky.network`, which is not installed. -/
def onSiminfoReceived (p : Proxy) (now : Int)
    (speed simdt simt simutc ntraf state scenname senderId : Value) : Proxy :=
  if !p.allowReconnection then p
  else
    let senderStr : Option String := match senderId with
      | .bin b => some (hex b)
      | v => if v.truthy then some (pyStr v) else none
    match senderStr with
    | none => p
    | some s =>
      let p := { p with lastSuccessfulUpdate := now }
      match simInfoData speed simdt simt simutc ntraf state scenname s with
      | none => p
      | some simData =>
        match { p with simData := simData }.updateNodeStatus s simt scenname with
        | .error p => p
        | .ok p => p.throttledPush "siminfo" simData p.lastSiminfoEmit siminfoInterval now
            fun p t => { p with lastSiminfoEmit := t }

/-- `on_acdata_received` at time `now`: a reset or active-node change in the context
clears the aircraft table and pushes it at once; otherwise the converted table is stored
and pushed at most every `acdata_interval`. -/
def onAcdataReceived (p : Proxy) (now : Int) (data : Value) : Proxy :=
  if !p.allowReconnection then p
  else if (match p.client with
      | some c => pyEq c.context.action (.str "RESET") || pyEq c.context.action (.str "ACTCHANGE")
      | none => false) then
    { p with trafficData := resetTraffic }.broadcast "acdata" resetTraffic
  else
    let p := { p with lastSuccessfulUpdate := now }
    match makeJsonSerializable data with
    | none => p
    | some table =>
      { p with trafficData := table }.throttledPush "acdata" table p.lastAcdataEmit acdataInterval
        now fun p t => { p with lastAcdataEmit := t }

/-- `on_routedata_received` at time `now`: with an active node, a route whose aircraft is
in the current table (or any route when there is no table) is converted and pushed. -/
def onRoutedataReceived (p : Proxy) (now : Int) (data : Value) : Proxy :=
  if !p.allowReconnection || p.getSafeActiveNode.isNone then p
  else
    let acid := match data with
      | .dict entries => (dictGet entries (.str "acid")).getD .none
      | _ => .none
    if !acid.truthy then p
    else
      let shown : Option Bool :=
        if p.trafficData.truthy then
          (p.trafficData.get? "id").bind fun ids => pyIn acid (ids.getD (.list []))
        else some true
      match shown with
      | some true =>
        let p := { p with lastSuccessfulUpdate := now }
        match makeJsonSerializable data with
        | some route => p.broadcast "routedata" route
        | none => p
      | _ => p

/-- `echo(text, flags, sender_id)` at time `now`: store and push the echo. -/
def echo (p : Proxy) (now : Int) (text flags senderId : Value) : Proxy :=
  if !p.allowReconnection then p
  else
    let p := { p with lastSuccessfulUpdate := now }
    let formatted := match text with
      | .none => ""
      | t => pyStr t
    let sender : Value := match senderId with
      | .none => .none
      | .bin b => .str (safeDecode b)
      | v => .str (pyStr v)
    match convOr flags (fun v => Value.int <$> pyInt v) (.int 0) with
    | none => p
    | some f =>
      let echoData := Value.dict [(.str "text", .str formatted), (.str "flags", f),
        (.str "timestamp", timestamp now), (.str "sender", sender)]
      { p with echoData := echoData }.broadcast "echo" echoData

/-- `on_stackcmds_received` at time `now`: merge a `cmddict` dictionary into the
command dictionary and push it. -/
def onStackcmdsReceived (p : Proxy) (now : Int) (data : Value) : Proxy :=
  let p := { p with lastSuccessfulUpdate := now }
  match data with
  | .dict entries =>
    match dictGet entries (.str "cmddict") with
    | some (.dict added) =>
      let p := { p with cmddict := dictUpdate p.cmddict added }
      p.broadcast "cmddict" (.dict [(.str "cmddict", .dict p.cmddict)])
    | _ => p
  | _ => p

/-- `_process_server_command(proxy, cmdline)` at time `now`: a command the dictionary
knows is executed locally, anything else is reported as not implemented; nothing is sent
upstream. -/
def processServerCommand (p : Proxy) (cmdline : String) (now : Int) : Proxy :=
  match pySplit cmdline with
  | [] => p
  | first :: rest =>
    let cmd := pyUpper first
    if (dictGet p.cmddict (.str cmd)).isSome then
      let r := executeLocalCommand cmd (" ".intercalate rest)
      if r.1 then p.echoResponse ("Server command executed: " ++ r.2) 0 now
      else p.echoResponse ("Server command failed: " ++ r.2) 2 now
    else p.echoResponse ("Server command '" ++ cmd ++ "' not implemented in web client") 1 now

/-- The loop of `on_stack_received` over its command lines; a truthy line that is not a
string raises at `strip()` and ends the loop. -/
def serverCommands (now : Int) : Proxy → List Value → Proxy
  | p, [] => p
  | p, .str s :: rest =>
    if pyStrip s = "" then serverCommands now p rest
    else serverCommands now (p.processServerCommand s now) rest
  | p, v :: rest => if v.truthy then p else serverCommands now p rest

/-- `on_stack_received` at time `now`: a string or a list of command lines from the
cluster. -/
def onStackReceived (p : Proxy) (now : Int) (data : Value) : Proxy :=
  let p := { p with lastSuccessfulUpdate := now }
  match data with
  | .str s => serverCommands now p [.str s]
  | .list items => serverCommands now p items
  | _ => p

/-- `store.setdefault(key, {"polys": {}})`, as `on_poly_received` initialises a store. -/
def initStore (store : List (String × Value)) (key : String) : List (String × Value) :=
  if (assocGet store key).isSome then store else upsert store key emptyShapes

/-- The action code of a `POLY` body: a string, or a one-byte `bytes` decoded as UTF-8
(which raises for a byte above 127), or the hex of longer `bytes`. -/
def polyAction : Value → Except Unit (Option String)
  | .list (a :: _ :: _) =>
    match a with
    | .str t => .ok (some t)
    | .bin b =>
      if b.length = 1 then
        match utf8Decode b with
        | some t => .ok (some t)
        | none => .error ()
      else .ok (some (hex b))
    | _ => .ok none
  | _ => .ok none

/-- Whether `separated and separated.get("polys")` holds; `none` when `get` raises. -/
def hasShapes (separated : Value) : Option Bool :=
  if !separated.truthy then some false
  else (fun polys => (polys.getD .none).truthy) <$> separated.get? "polys"

/-- The replace branch for one store: the new shapes, or an empty store. -/
def replaceShapes (store : List (String × Value)) (key : String) (separated : Value) :
    Option (List (String × Value)) :=
  (fun has => upsert store key (if has then separated else emptyShapes)) <$> hasShapes separated

/-- The merge branch for one store: `store[key]["polys"].update(separated["polys"])`. -/
def mergeShapes (store : List (String × Value)) (key : String) (separated : Value) :
    Option (List (String × Value)) := do
  let has ← hasShapes separated
  if !has then pure store
  else
    let stored ← assocGet store key
    match stored, separated with
    | .dict s, .dict n =>
      match dictGet s (.str "polys"), dictGet n (.str "polys") with
      | some (.dict old), some (.dict new) =>
        pure (upsert store key (.dict (dictSet s (.str "polys") (.dict (dictUpdate old new)))))
      | _, _ => none
    | _, _ => none

/-- The five-shape limit on one store: only the five most recent names stay. -/
def limitShapes (store : List (String × Value)) (key : String) : Option (List (String × Value)) := do
  let stored ← assocGet store key
  match stored with
  | .dict s =>
    match dictGet s (.str "polys") with
    | some (.dict shapes) =>
      if 5 < shapes.length then
        pure (upsert store key (.dict (dictSet s (.str "polys") (.dict (shapes.drop (shapes.length - 5))))))
      else pure store
    | some v => if (pyLen v).getD 6 ≤ 5 then pure store else none
    | none => none
  | _ => none

/-- The store updates of `on_poly_received` for a known sender: initialise both stores,
replace them on an `R`, `X` or `C` action and merge into them otherwise, then apply the
five-shape limit. The error carries the state reached when a step raises. -/
def storeShapes (p : Proxy) (sender : String) (data : Value) (separated : Value × Value) :
    Except Proxy Proxy :=
  let p := { p with polyDataByNode := initStore p.polyDataByNode sender,
                    polylineDataByNode := initStore p.polylineDataByNode sender }
  match polyAction data with
  | .error () => .error p
  | .ok action =>
    let replace := action = some "R" ∨ action = some "X" ∨ action = some "C"
    let update := if replace then replaceShapes else mergeShapes
    match update p.polyDataByNode sender separated.1 with
    | none => .error p
    | some polys =>
      let p := { p with polyDataByNode := polys }
      match update p.polylineDataByNode sender separated.2 with
      | none => .error p
      | some lines =>
        let p := { p with polylineDataByNode := lines }
        match limitShapes p.polyDataByNode sender with
        | none => .error p
        | some polys =>
          let p := { p with polyDataByNode := polys }
          match limitShapes p.polylineDataByNode sender with
          | none => .error p
          | some lines => .ok { p with polylineDataByNode := lines }

/-- `on_poly_received` at time `now`: the body is converted and split into polygons and
polylines, stored for the context's sender, and, when that sender is the active node,
the sender's complete stores are pushed. -/
def onPolyReceived (p : Proxy) (now : Int) (data : Value) : Proxy :=
  if !p.allowReconnection then p
  else
    let p := { p with lastSuccessfulUpdate := now }
    let sender := p.contextSender
    match makeJsonSerializable data, sender with
    | some polyData, some s =>
      match p.storeShapes s data (separatePolyAndPolylineData polyData) with
      | .error p => p
      | .ok p =>
        if p.getSafeActiveNode = some s ∧ p.socketio then
          let polys : Push := ⟨"poly", (assocGet p.polyDataByNode s).getD emptyShapes⟩
          let lines : Push := ⟨"polyline", (assocGet p.polylineDataByNode s).getD emptyShapes⟩
          { p with pushes := p.pushes ++ [polys, lines] }
        else p
    | _, _ => p

/-- `on_reset_received` at time `now`: drop the shapes of the context's sender (or of the
active node when there is none), and of the active node too, then push cleared shapes. -/
def onResetReceived (p : Proxy) (now : Int) : Proxy :=
  if !p.allowReconnection then p
  else
    let p := { p with lastSuccessfulUpdate := now }
    match p.contextSender.orElse fun _ => p.getSafeActiveNode with
    | none => p
    | some r =>
      let p := { p with polyDataByNode := remove p.polyDataByNode r,
                        polylineDataByNode := remove p.polylineDataByNode r }
      let p := match p.getSafeActiveNode with
        | some a =>
          if a ≠ r then
            { p with polyDataByNode := remove p.polyDataByNode a,
                     polylineDataByNode := remove p.polylineDataByNode a }
          else p
        | none => p
      ((p.broadcast "poly" emptyShapes).broadcast "polyline" emptyShapes).broadcast "reset"
        (.dict [(.str "reason", .str "BlueSky simulation reset"), (.str "timestamp", timestamp now)])

/-- What the handlers that only note the data arrived do: refresh the silence clock while
reconnecting is allowed. -/
def onDataNoted (p : Proxy) (now : Int) : Proxy :=
  if !p.allowReconnection then p else { p with lastSuccessfulUpdate := now }

/-- `on_request_received`. -/
def onRequestReceived (p : Proxy) (now : Int) : Proxy := p.onDataNoted now

/-- `on_plot_received`. -/
def onPlotReceived (p : Proxy) (now : Int) : Proxy := p.onDataNoted now

/-- `on_showdialog_received`. -/
def onShowdialogReceived (p : Proxy) (now : Int) : Proxy := p.onDataNoted now

/-- `on_simsettings_received`. -/
def onSimsettingsReceived (p : Proxy) (now : Int) : Proxy := p.onDataNoted now

/-- `on_trails_received`. -/
def onTrailsReceived (p : Proxy) (now : Int) : Proxy := p.onDataNoted now

/-- `on_defwpt_received`. -/
def onDefwptReceived (p : Proxy) (now : Int) : Proxy := p.onDataNoted now

/-- A handler run on its bound parameters. -/
def runHandler (p : Proxy) (now : Int) : Callback → List Value → Proxy
  | .onSiminfoReceived, [a, b, c, d, e, f, g, h] => p.onSiminfoReceived now a b c d e f g h
  | .onAcdataReceived, [d] => p.onAcdataReceived now d
  | .onRoutedataReceived, [d] => p.onRoutedataReceived now d
  | .echo, [t, f, s] => p.echo now t f s
  | .onStackcmdsReceived, [_, d] => p.onStackcmdsReceived now d
  | .onStackReceived, [d] => p.onStackReceived now d
  | .onPolyReceived, [d] => p.onPolyReceived now d
  | .onResetReceived, [_] => p.onResetReceived now
  | .onRequestReceived, [_] => p.onRequestReceived now
  | .onPlotReceived, [_] => p.onPlotReceived now
  | .onShowdialogReceived, [_] => p.onShowdialogReceived now
  | .onSimsettingsReceived, [_] => p.onSimsettingsReceived now
  | .onTrailsReceived, [_] => p.onTrailsReceived now
  | .onDefwptReceived, [_] => p.onDefwptReceived now
  | _, _ => p

/-- `subscriber.emit(topic, ...)`: each subscriber of the topic in turn; one whose
parameters do not bind raises `TypeError` before its body runs. -/
def deliver (p : Proxy) (now : Int) (d : Delivery) (subscribers : List Callback) : Proxy :=
  subscribers.foldl (fun p cb =>
    match cb.signature.bind d.args with
    | some vals => p.runHandler now cb vals
    | none => p) p

end Proxy

end WebATM
