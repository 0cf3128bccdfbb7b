import WebATM.Proxy.ShapeEvents
import Mathlib.Tactic.Linarith

/-!
# Throttled pushes

`on_siminfo_received` and `on_acdata_received` cache every value they convert, but push it to
the consumers only when the channel's interval has passed since the handler's previous push,
whose time they keep in `last_siminfo_emit` and `last_acdata_emit`. This file states that rule
as a pure function of the arrival times and proves its spacing and window laws once. A run of
the proxy that takes each arrival as the rule does pushes exactly what the rule pushes; a run
of well-typed `SIMINFO` frames is one, and so is a run of `ACDATA` frames outside the reset
path.
-/

namespace WebATM

namespace Throttle

variable {α : Type}

/-- The arrivals a throttle pushes, the previous push being at `last`: an arrival is pushed
when the interval has passed since the previous push, and its time becomes the previous
push. -/
def pushed (interval : Int) : Int → List (Int × α) → List (Int × α)
  | _, [] => []
  | last, x :: xs =>
    if interval ≤ x.1 - last then x :: pushed interval x.1 xs else pushed interval last xs

/-- The time of the previous push after the arrivals. -/
def lastPush (interval : Int) : Int → List (Int × α) → Int
  | last, [] => last
  | last, x :: xs =>
    if interval ≤ x.1 - last then lastPush interval x.1 xs else lastPush interval last xs

section Laws

variable {interval : Int}

/-- Every push comes at least the interval after the previous push before the arrivals. -/
theorem le_of_mem_pushed (hi : 0 ≤ interval) {last : Int} {xs : List (Int × α)} {y : Int × α}
    (hy : y ∈ pushed interval last xs) : last + interval ≤ y.1 := by
  induction xs generalizing last with
  | nil => cases hy
  | cons x xs ih =>
    unfold pushed at hy
    split_ifs at hy with hx
    · rcases List.mem_cons.mp hy with rfl | hy
      · omega
      · have := ih hy
        omega
    · exact ih hy

/-- Any two pushes are at least the interval apart. -/
theorem pushed_spaced (hi : 0 ≤ interval) (last : Int) (xs : List (Int × α)) :
    ((pushed interval last xs).map Prod.fst).Pairwise fun a b => a + interval ≤ b := by
  induction xs generalizing last with
  | nil => exact List.Pairwise.nil
  | cons x xs ih =>
    unfold pushed
    split_ifs
    · refine List.pairwise_cons.mpr ⟨fun b hb => ?_, ih x.1⟩
      obtain ⟨y, hy, rfl⟩ := List.mem_map.mp hb
      exact le_of_mem_pushed hi hy
    · exact ih last

/-- Times each at least `d` after the ones before, all at most `hi`: the first and the
`l.length` gaps after it fit below `hi`. -/
theorem add_length_mul_le {d hi : Int} :
    ∀ {a : Int} {l : List Int}, (a :: l).Pairwise (fun a b => a + d ≤ b) → (∀ b ∈ a :: l, b ≤ hi) →
      a + l.length * d ≤ hi
  | a, [], _, hle => by simpa using hle a (List.mem_singleton_self a)
  | a, b :: l, hp, hle => by
    have hab : a + d ≤ b := List.rel_of_pairwise_cons hp (List.mem_cons_self b l)
    have ih := add_length_mul_le hp.of_cons fun c hc => hle c (List.mem_cons_of_mem a hc)
    simp only [List.length_cons, Nat.cast_add, Nat.cast_one]
    linarith

/-- A window of length `E` holds at most `E / interval + 1` pushes. -/
theorem pushed_window (hi : 0 < interval) (last : Int) (xs : List (Int × α)) (s E : Int)
    (hE : 0 ≤ E) :
    (((pushed interval last xs).filter fun y => s ≤ y.1 ∧ y.1 ≤ s + E).length : Int) ≤
      E / interval + 1 := by
  have hsp : (((pushed interval last xs).filter fun y => s ≤ y.1 ∧ y.1 ≤ s + E).map Prod.fst).Pairwise
      fun a b => a + interval ≤ b :=
    (pushed_spaced hi.le last xs).sublist ((List.filter_sublist _).map Prod.fst)
  have hin : ∀ b ∈ ((pushed interval last xs).filter fun y => s ≤ y.1 ∧ y.1 ≤ s + E).map Prod.fst,
      s ≤ b ∧ b ≤ s + E := by
    intro b hb
    obtain ⟨y, hy, rfl⟩ := List.mem_map.mp hb
    simpa using (List.mem_filter.mp hy).2
  rw [← List.length_map _ Prod.fst]
  cases hl : ((pushed interval last xs).filter fun y => s ≤ y.1 ∧ y.1 ≤ s + E).map Prod.fst with
  | nil =>
    have := Int.ediv_nonneg hE hi.le
    simp only [List.length_nil, Nat.cast_zero]
    omega
  | cons a l =>
    rw [hl] at hsp hin
    -- the first push in the window and the gaps after it fit in the window
    have hspan := add_length_mul_le hsp fun b hb => (hin b hb).2
    have hs := (hin a (List.mem_cons_self a l)).1
    have hgaps : (l.length : Int) ≤ E / interval :=
      (Int.le_ediv_iff_mul_le hi).mpr (by linarith)
    simp only [List.length_cons, Nat.cast_add, Nat.cast_one]
    omega

end Laws

end Throttle

/-! ## Channels of the proxy -/

/-- The values pushed as `event`, oldest first. -/
def Proxy.pushesOf (p : Proxy) (event : String) : List Value :=
  (p.pushes.filter (·.event = event)).map Push.data

/-- A throttled channel of the proxy: the event it pushes, its interval, the attribute that
holds the time of its previous push, and the cache its handler writes. -/
structure Channel where
  event : String
  interval : Int
  interval_pos : 0 < interval
  lastEmit : Proxy → Int
  cache : Proxy → Value

namespace Channel

/-- `siminfo` pushes of `sim_data`, at most every `siminfo_interval`. -/
def siminfo : Channel := ⟨"siminfo", siminfoInterval, by decide, Proxy.lastSiminfoEmit, Proxy.simData⟩

/-- `acdata` pushes of `traffic_data`, at most every `acdata_interval`. -/
def acdata : Channel := ⟨"acdata", acdataInterval, by decide, Proxy.lastAcdataEmit, Proxy.trafficData⟩

/-- A step from `p` to `q` takes the value `x.2` arriving at `x.1` as the channel's throttle
does: it caches the value, and pushes it and records its time exactly when the interval has
passed since the previous push. -/
structure Throttles (ch : Channel) (p q : Proxy) (x : Int × Value) : Prop where
  cache : ch.cache q = x.2
  pushes : q.pushesOf ch.event =
    p.pushesOf ch.event ++ if ch.interval ≤ x.1 - ch.lastEmit p then [x.2] else []
  lastEmit : ch.lastEmit q = if ch.interval ≤ x.1 - ch.lastEmit p then x.1 else ch.lastEmit p

/-- A run of the proxy from `p` to `r` whose steps take the timed values `xs` in order. -/
inductive Run (ch : Channel) : Proxy → List (Int × Value) → Proxy → Prop
  | nil (p : Proxy) : Run ch p [] p
  | cons {p q r : Proxy} {x : Int × Value} {xs : List (Int × Value)} :
    ch.Throttles p q x → Run ch q xs r → Run ch p (x :: xs) r

/-- What a run from `p` to `r` over the timed values `xs` shows on the channel: the cache
holds the last value; the values pushed are those the throttle pushes from the attribute's
time, which ends at the time of the last push; each push comes at least the interval after
the previous one, the first after the attribute's time; and a window of length `E` holds at
most `E / interval + 1` pushes. -/
structure Throttled (ch : Channel) (p : Proxy) (xs : List (Int × Value)) (r : Proxy) : Prop where
  cache : ∀ x ∈ xs.getLast?, ch.cache r = x.2
  pushes : r.pushesOf ch.event =
    p.pushesOf ch.event ++ (Throttle.pushed ch.interval (ch.lastEmit p) xs).map Prod.snd
  lastEmit : ch.lastEmit r = Throttle.lastPush ch.interval (ch.lastEmit p) xs
  first : ∀ y ∈ Throttle.pushed ch.interval (ch.lastEmit p) xs, ch.lastEmit p + ch.interval ≤ y.1
  spaced : ((Throttle.pushed ch.interval (ch.lastEmit p) xs).map Prod.fst).Pairwise
    fun a b => a + ch.interval ≤ b
  window : ∀ s E : Int, 0 ≤ E →
    (((Throttle.pushed ch.interval (ch.lastEmit p) xs).filter
      fun y => s ≤ y.1 ∧ y.1 ≤ s + E).length : Int) ≤ E / ch.interval + 1

variable {ch : Channel}

/-- After a run the cache holds the run's last value. -/
theorem Run.cache {p r : Proxy} {xs : List (Int × Value)} (h : ch.Run p xs r) :
    ∀ x ∈ xs.getLast?, ch.cache r = x.2 := by
  induction h with
  | nil => exact fun _ hx => by cases hx
  | @cons p q r x xs hs hr ih =>
    cases xs with
    | nil =>
      cases hr
      exact fun y hy => by cases hy; exact hs.cache
    | cons x' xs' => exact fun y hy => ih y (by simpa only [List.getLast?_cons_cons] using hy)

/-- A run pushes what the throttle pushes, and records the time of its last push. -/
theorem Run.pushes {p r : Proxy} {xs : List (Int × Value)} (h : ch.Run p xs r) :
    r.pushesOf ch.event =
        p.pushesOf ch.event ++ (Throttle.pushed ch.interval (ch.lastEmit p) xs).map Prod.snd ∧
      ch.lastEmit r = Throttle.lastPush ch.interval (ch.lastEmit p) xs := by
  induction h with
  | nil => simp [Throttle.pushed, Throttle.lastPush]
  | @cons p q r x xs hs _ ih =>
    rw [ih.1, ih.2, hs.pushes, hs.lastEmit]
    simp only [Throttle.pushed, Throttle.lastPush]
    split_ifs <;> simp

theorem Run.throttled {p r : Proxy} {xs : List (Int × Value)} (h : ch.Run p xs r) :
    ch.Throttled p xs r :=
  have hi := ch.interval_pos
  ⟨h.cache, h.pushes.1, h.pushes.2, fun _ hy => Throttle.le_of_mem_pushed hi.le hy,
    Throttle.pushed_spaced hi.le _ xs, fun s E hE => Throttle.pushed_window hi _ xs s E hE⟩

end Channel

/-! ## The handlers' step -/

namespace Proxy

/-- With a consumer connected, the throttled push pushes exactly when the interval has
passed. -/
theorem throttledPush_of_connected {p : Proxy} (hsock : p.socketio = true)
    (hcl : 0 < p.connectedClients) (event : String) (data : Value) (last interval now : Int)
    (record : Proxy → Int → Proxy) :
    p.throttledPush event data last interval now record =
      if interval ≤ now - last then record { p with pushes := p.pushes ++ [⟨event, data⟩] } now
      else p := by
  simp [throttledPush, broadcast, hsock, hcl]

theorem timeValue_isSome_of_tim2txt {t : Value} (h : (tim2txt t).isSome) : (timeValue t).isSome := by
  cases ht : timeValue t
  · simp [tim2txt, ht] at h
  · rfl

theorem pyInt_isSome_of_timeValue {t : Value} (h : (timeValue t).isSome) : (pyInt t).isSome := by
  cases t with
  | float x => cases x <;> simp_all [timeValue, pyInt]
  | _ => simp_all [timeValue, pyInt]

/-- With a simulated time that is `None` or a number `tim2txt` formats, the record update of
`on_siminfo_received` raises nothing: it writes the node records, and may push the node
directory. -/
theorem updateNodeStatus_ok (p : Proxy) (s : String) {simt : Value}
    (ht : simt = .none ∨ (tim2txt simt).isSome) (scen : Value) :
    ∃ nodes, p.updateNodeStatus s simt scen = .ok { p with trackedNodes := nodes } ∨
      p.updateNodeStatus s simt scen = .ok { p with trackedNodes := nodes }.emitNodeInfo := by
  unfold updateNodeStatus
  split
  · by_cases hs : s = ""
    · exact ⟨_, .inl (if_pos hs)⟩
    rw [if_neg hs]
    dsimp only
    split
    · -- `tim2txt` formats the time
      rename_i hfmt
      rcases ht with rfl | ht
      · cases hfmt
      · split at hfmt
        · cases ht
        · obtain ⟨txt, htxt⟩ := Option.isSome_iff_exists.mp ht
          simp [htxt] at hfmt
    split
    · -- `int(simt)` converts a truthy time
      rename_i hint
      split at hint
      · rcases ht with rfl | ht
        · cases ‹Value.none.truthy = true›
        · exact absurd hint (Option.isSome_iff_ne_none.mp
            (pyInt_isSome_of_timeValue (timeValue_isSome_of_tim2txt ht)))
      · cases hint
    split_ifs
    all_goals first | exact ⟨_, .inr rfl⟩ | exact ⟨_, .inl rfl⟩
  · exact ⟨_, .inl rfl⟩

/-- The proxy accepts data and has a consumer to push to. -/
structure Live (p : Proxy) : Prop where
  allow : p.allowReconnection = true
  socketio : p.socketio = true
  clients : 0 < p.connectedClients

theorem Live.of_core {p q : Proxy} (h : p.Live) (hq : q.core = p.core) : q.Live :=
  ⟨(congrArg Core.allowReconnection hq).trans h.allow, (congrArg Core.socketio hq).trans h.socketio,
    lt_of_lt_of_eq h.clients (congrArg Core.connectedClients hq).symm⟩

/-- `on_siminfo_received` with a simulated time that is `None` or a number `tim2txt` formats,
and values that convert: it caches them as `sim_data` and pushes them as the throttle does. -/
theorem onSiminfoReceived_throttles {p : Proxy} (hp : p.Live)
    {speed simdt simt simutc ntraf state scenname : Value} {sender : Bytes} {v : Value}
    (ht : simt = .none ∨ (tim2txt simt).isSome)
    (hv : simInfoData speed simdt simt simutc ntraf state scenname (hex sender) = some v) (now : Int) :
    Channel.siminfo.Throttles p
      (p.onSiminfoReceived now speed simdt simt simutc ntraf state scenname (.bin sender)) (now, v) := by
  obtain ⟨nodes, hu | hu⟩ :=
    updateNodeStatus_ok { p with lastSuccessfulUpdate := now, simData := v } (hex sender) ht scenname
  all_goals
    unfold onSiminfoReceived
    rw [if_neg (by simp [hp.allow])]
    simp only [hv, hu, throttledPush]
    by_cases hf : siminfoInterval ≤ now - p.lastSiminfoEmit <;> constructor <;>
      simp [Channel.siminfo, pushesOf, emitNodeInfo, broadcast, hp.socketio, hp.clients, hf]

end Proxy

/-! ## `SIMINFO` frames -/

/-- The `sim_data` of a well-typed `SIMINFO` frame: seven items whose conversions raise
nothing, the simulated time being `None` or a number `tim2txt` formats, which `gmtime` must
accept. -/
def DataMsg.simInfo (m : DataMsg) : Option Value :=
  match m.topicAndData with
  | some ("SIMINFO", .list [speed, simdt, simt, simutc, ntraf, state, scenname]) =>
    if (simt matches .none) || (tim2txt simt).isSome then
      simInfoData speed simdt simt simutc ntraf state scenname (hex m.sender)
    else none
  | _ => none

/-- The times and `sim_data` of a run of well-typed `SIMINFO` frames; `none` when a frame is
not one. -/
def siminfoValues : List (Int × DataMsg) → Option (List (Int × Value))
  | [] => some []
  | (t, m) :: rest => m.simInfo.bind fun v => ((t, v) :: ·) <$> siminfoValues rest

theorem DataMsg.simInfo_eq_some {m : DataMsg} {v : Value} (h : m.simInfo = some v) :
    ∃ speed simdt simt simutc ntraf state scenname,
      m.topicAndData = some ("SIMINFO", .list [speed, simdt, simt, simutc, ntraf, state, scenname]) ∧
      (simt = .none ∨ (tim2txt simt).isSome) ∧
      simInfoData speed simdt simt simutc ntraf state scenname (hex m.sender) = some v := by
  unfold simInfo at h
  split at h
  · rename_i speed simdt simt simutc ntraf state scenname ht
    split_ifs at h with hc
    refine ⟨_, _, _, _, _, _, _, ht, ?_, h⟩
    cases simt <;> simp_all
  · cases h

namespace Proxy

/-- A `SIMINFO` frame of seven items goes to the one `on_siminfo_received` with the items and
the frame's sender, and leaves the client as it was. -/
theorem dataMessage_of_siminfo {p : Proxy} {c : BlueSkyClient} (hc : p.client = some c)
    (hsubs : c.subscribersOf "SIMINFO" = [.onSiminfoReceived]) {m : DataMsg}
    {speed simdt simt simutc ntraf state scenname : Value}
    (hm : m.topicAndData = some ("SIMINFO", .list [speed, simdt, simt, simutc, ntraf, state, scenname]))
    (now : Int) :
    p.dataMessage now m =
      p.onSiminfoReceived now speed simdt simt simutc ntraf state scenname (.bin m.sender) := by
  have hp : { p with client := some c } = p := by cases p; cases hc; rfl
  have hcall : siminfoCall "SIMINFO" m.sender (.list [speed, simdt, simt, simutc, ntraf, state, scenname]) =
      some ⟨"SIMINFO", ⟨[speed, simdt, simt, simutc, ntraf, state, scenname],
        [("sender_id", .bin m.sender)]⟩⟩ := rfl
  unfold dataMessage
  rw [hc]
  simp only [BlueSkyClient.processDataMessage_of_topicAndData hm, hcall]
  show deliver _ now _ (c.subscribersOf "SIMINFO") = _
  rw [hsubs, hp]
  rfl

/-- A run of well-typed `SIMINFO` frames takes their `sim_data` as the throttle does. -/
theorem run_siminfo {c : BlueSkyClient} (hsubs : c.subscribersOf "SIMINFO" = [.onSiminfoReceived]) :
    ∀ (frames : List (Int × DataMsg)) (p : Proxy) (xs : List (Int × Value)), p.client = some c →
      p.Live → siminfoValues frames = some xs →
      Channel.siminfo.Run p xs (frames.foldl (fun p f => p.dataMessage f.1 f.2) p)
  | [], p, xs, _, _, h => by cases h; exact .nil p
  | (t, m) :: rest, p, xs, hc, hp, h => by
    obtain ⟨v, hv, h⟩ := Option.bind_eq_some.mp h
    obtain ⟨xs', hrest, rfl⟩ := Option.map_eq_some'.mp h
    obtain ⟨speed, simdt, simt, simutc, ntraf, state, scenname, hm, ht, hconv⟩ := m.simInfo_eq_some hv
    have hstep := dataMessage_of_siminfo hc hsubs hm t
    have hcore : (p.dataMessage t m).core = p.core := by rw [hstep]; exact core_onSiminfoReceived p t ..
    refine .cons (q := p.dataMessage t m) ?_ ?_
    · rw [hstep]
      exact onSiminfoReceived_throttles hp ht hconv t
    · exact
run_siminfo hsubs rest _ xs' ((congrArg Core.client hcore).trans hc) (hp.of_core hcore) hrest

end Proxy

/-! ## `ACDATA` frames -/

/-- The action of the dispatch context `on_acdata_received` sees for an `ACDATA` frame, and
the body it is given, when an earlier frame left the action `action`: a pair
`[action_type, data]` brings its own action and passes its data, anything else is passed
whole. -/
def DataMsg.acdataCall (m : DataMsg) (action : Value) : Option (Value × Value) :=
  match m.topicAndData with
  | some ("ACDATA", .list [a, body]) => some (a, body)
  | some ("ACDATA", data) => some (action, data)
  | _ => none

/-- The times and tables of a run of `ACDATA` frames outside the reset path, from the context
action `action`: the action each frame meets is neither a reset nor an active-node change,
and its body converts. `none` when a frame is not such a frame. -/
def acdataTables : Value → List (Int × DataMsg) → Option (List (Int × Value))
  | _, [] => some []
  | action, (t, m) :: rest =>
    match m.acdataCall action with
    | some (a, body) =>
      if pyEq a (.str "RESET") || pyEq a (.str "ACTCHANGE") then none
      else (makeJsonSerializable body).bind fun table => ((t, table) :: ·) <$> acdataTables a rest
    | none => none

/-- An `ACDATA` frame hands its body to the subscribers, leaving the context at the action
the handler sees and the subscribers as they were. -/
theorem BlueSkyClient.processDataMessage_of_acdataCall {c : BlueSkyClient} {m : DataMsg}
    {a body : Value} (h : m.acdataCall c.context.action = some (a, body)) :
    ∃ c', c.processDataMessage m = (c', some ⟨"ACDATA", ⟨[body], []⟩⟩) ∧ c'.context.action = a ∧
      c'.subscribers = c.subscribers := by
  unfold DataMsg.acdataCall at h
  split at h
  · rename_i a' body' ht
    cases h
    have hp : m.sharedPair = some ("ACDATA", a, body) := by
      simp [DataMsg.sharedPair, ht, isSharedStateTopic]
    exact ⟨_, processDataMessage_of_sharedPair hp, rfl, rfl⟩
  · rename_i data hpair ht
    cases h
    refine ⟨c, ?_, rfl, rfl⟩
    have hs : isSharedStateTopic "ACDATA" = true := rfl
    rw [processDataMessage_of_topicAndData ht, siminfoCall_of_shared hs]
    simp only [hs, if_true, sharedState]
  · cases h

namespace Proxy

/-- `on_acdata_received` outside the reset path, with a body that converts: it caches the
table as `traffic_data` and pushes it as the throttle does. -/
theorem onAcdataReceived_throttles {p : Proxy} (hp : p.Live) {c : BlueSkyClient}
    (hreset : (pyEq c.context.action (.str "RESET") || pyEq c.context.action (.str "ACTCHANGE")) = false)
    {body table : Value} (htable : makeJsonSerializable body = some table) (now : Int) :
    Channel.acdata.Throttles p ({ p with client := some c }.onAcdataReceived now body) (now, table) := by
  unfold onAcdataReceived
  rw [if_neg (by simp [hp.allow])]
  simp only [hreset, Bool.false_eq_true, if_false, htable, throttledPush]
  by_cases hf : acdataInterval ≤ now - p.lastAcdataEmit <;> constructor <;>
    simp [Channel.acdata, pushesOf, broadcast, hp.socketio, hp.clients, hf]

/-- An `ACDATA` frame goes to the one `on_acdata_received` with its body, the context holding
the action the handler sees. -/
theorem dataMessage_of_acdataCall {p : Proxy} {c : BlueSkyClient} (hc : p.client = some c)
    (hsubs : c.subscribersOf "ACDATA" = [.onAcdataReceived]) {m : DataMsg} {a body : Value}
    (h : m.acdataCall c.context.action = some (a, body)) (now : Int) :
    ∃ c', c'.context.action = a ∧ c'.subscribersOf "ACDATA" = [.onAcdataReceived] ∧
      p.dataMessage now m = { p with client := some c' }.onAcdataReceived now body := by
  obtain ⟨c', hpm, ha, hs⟩ := BlueSkyClient.processDataMessage_of_acdataCall h
  have hsubs' : c'.subscribersOf "ACDATA" = [.onAcdataReceived] := by
    rw [← hsubs]
    simp only [BlueSkyClient.subscribersOf, hs]
  refine ⟨c', ha, hsubs', ?_⟩
  unfold dataMessage
  rw [hc]
  simp only [hpm]
  show deliver _ now _ (c'.subscribersOf "ACDATA") = _
  rw [hsubs']
  rfl

/-- A run of `ACDATA` frames outside the reset path takes their tables as the throttle does. -/
theorem run_acdata : ∀ (frames : List (Int × DataMsg)) (p : Proxy) (c : BlueSkyClient)
    (xs : List (Int × Value)), p.client = some c → c.subscribersOf "ACDATA" = [.onAcdataReceived] →
    p.Live → acdataTables c.context.action frames = some xs →
    Channel.acdata.Run p xs (frames.foldl (fun p f => p.dataMessage f.1 f.2) p)
  | [], p, _, xs, _, _, _, h => by cases h; exact .nil p
  | (t, m) :: rest, p, c, xs, hc, hsubs, hp, h => by
    unfold acdataTables at h
    split at h
    · rename_i a body hcall
      split_ifs at h with hreset
      obtain ⟨table, htable, h⟩ := Option.bind_eq_some.mp h
      obtain ⟨xs', hrest, rfl⟩ := Option.map_eq_some'.mp h
      obtain ⟨c', ha, hsubs', hstep⟩ := dataMessage_of_acdataCall hc hsubs hcall t
      have hreset' := Bool.eq_false_iff.mpr hreset
      have hp' : ({ p with client := some c' } : Proxy).Live := ⟨hp.allow, hp.socketio, hp.clients⟩
      have hcore : (p.dataMessage t m).core = ({ p with client := some c' } : Proxy).core := by
        rw [hstep]
        exact core_onAcdataReceived ..
      refine .cons (q := p.dataMessage t m) ?_ ?_
      · rw [hstep]
        exact onAcdataReceived_throttles hp (ha ▸ hreset') htable t
      · exact run_acdata rest _ c' xs' (congrArg Core.client hcore) hsubs' (hp'.of_core hcore)
          (ha ▸ hrest)
    · cases h

end Proxy

/-- A `SIMINFO` frame from `sender` at simulated time `simt`. -/
def Proxy.siminfoFrame (sender : Bytes) (simt : Int) : DataMsg :=
  ⟨Proxy.frameHeader [83, 73, 77, 73, 78, 70, 79] sender,
    some (.list [.float (.finite 1), .float (.finite 0), .int simt, .str "", .int 3, .int 2, .str "DEMO"])⟩

/-- A simulated time past `gmtime`'s range makes the handler raise for a tracked sender after
caching the frame: `sim_data` changes, and nothing is pushed. -/
example : ((Proxy.twoNodes.dataMessage 150 (Proxy.siminfoFrame Proxy.nodeA (gmtimeMax + 1))).pushesOf
      "siminfo").length = (Proxy.twoNodes.pushesOf "siminfo").length ∧
    Proxy.twoNodes.simData.truthy = false ∧
    (Proxy.twoNodes.dataMessage 150 (Proxy.siminfoFrame Proxy.nodeA (gmtimeMax + 1))).simData.truthy =
      true := by
  decide

/-- The first frame of each run is pushed, the second is not. -/
example : ((([(150, Proxy.siminfoFrame Proxy.nodeA 12), (200, Proxy.siminfoFrame Proxy.nodeA 13)] :
    List (Int × DataMsg)).foldl (fun p f => p.dataMessage f.1 f.2) Proxy.twoNodes).pushesOf "siminfo").length =
      (Proxy.twoNodes.pushesOf "siminfo").length + 1 := by
  decide

end WebATM
