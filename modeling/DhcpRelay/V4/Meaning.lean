import DhcpRelay.Meaning
import DhcpRelay.V4.Pipeline

/-!
# DhcpRelay.V4.Meaning

What each DHCPv4 stage means on messages, and what the two pipelines mean. The
request pipeline has three parts: an **admission** part that decides, the
optional **edits** (Option 82, VSS), and a **dispatch** part that sets giaddr and
the destination.
-/

namespace DhcpRelay.V4

open DhcpRelay.Library

/-! ### The stages -/

/-- `validateStage`, on messages. -/
def onValidate (localAddrs : List Ipv4Addr) : ViewStage Message := fun v =>
  match Giaddr.validate v.msg localAddrs v.isTrustedCircuit with
  | .firstRelay | .trustedCircuit => (.ok true, v)
  | .reforwarded => (.ok true, { v with isReforwarded := true })
  | .untrustedCircuit => (.ok false, v)
  | .spoof => (.error (.giaddrSpoof s!"giaddr {v.msg.giaddr} matches local interface"), v)

/-- `option82InsertStage`, on messages. -/
def onOption82Insert (circuitId remoteId : Option Bytes) : ViewStage Message := fun v =>
  if v.isReforwarded then (.ok true, v)
  else ViewStage.editThen (fun msg => Option82.insert msg circuitId remoteId)
    (fun v => v.note "option82_inserted" "true") v

/-- `vssInsertStage`, on messages. -/
def onVssInsert (vssConfig : VssConfig) : ViewStage Message := fun v =>
  if !vssConfig.enabled then (.ok true, v)
  else
    match Vss.encodeSubOpts vssConfig with
    | .error e => (.error e, v)
    | .ok (vssData, _) =>
      ViewStage.editThen (Vss.insertInto (vssData.drop Vss.suboptHeaderLen))
        (fun v => v.note "vss_inserted" "true") v

/-- `giaddrStage`, on messages. -/
def onGiaddr (ifaceIp : Ipv4Addr) : ViewStage Message := fun v =>
  if v.isReforwarded then (.ok true, v)
  else ViewStage.editThen (giaddrEdit ifaceIp) id v

/-- `forwardStage`, on messages. -/
def onForward (dest : SocketAddr) : ViewStage Message := fun v =>
  (.ok true, { v with dstAddr := some dest })

/-- `option82StripStage`, on messages. -/
def onOption82Strip (expected : Option (List Option82.SubOption)) : ViewStage Message :=
  ViewStage.editThen (stripEdit expected) id

/-- `replyAddrStage`, on messages. -/
def onReplyAddr : ViewStage Message := fun v =>
  (.ok true, { v with dstAddr := some (replyAddr v.msg) })

/-! ### The pipelines -/

/-- Parse and validate. -/
def admission (args : RequestArgs) : List (ViewStage Message) :=
  [ViewStage.pass, onValidate args.localAddrs]

/-- Insert Option 82, if it is enabled. -/
def insertOption82 (args : RequestArgs) : List (ViewStage Message) :=
  if args.enableOption82 then [onOption82Insert args.circuitId args.remoteId] else []

/-- Insert the VSS sub-options, if there is a VSS configuration. -/
def insertVss (args : RequestArgs) : List (ViewStage Message) :=
  match args.vssConfig with
  | some cfg => [onVssInsert cfg]
  | none => []

/-- Set giaddr and the destination. -/
def dispatch (args : RequestArgs) : List (ViewStage Message) :=
  [onGiaddr args.ifaceIp, onForward args.serverAddr]

/-- What `buildRequest` means. -/
def requestMeaning (args : RequestArgs) : List (ViewStage Message) :=
  admission args ++ (insertOption82 args ++ (insertVss args ++ dispatch args))

/-- What `buildReply` means. -/
def replyMeaning (expected : Option (List Option82.SubOption)) (vssConfig : Option VssConfig)
    (enableOption82 : Bool) : List (ViewStage Message) :=
  [ViewStage.pass]
    ++ (match vssConfig with
        | some _ => [ViewStage.pass]
        | none => [])
    ++ (if enableOption82 then [onOption82Strip expected] else [])
    ++ [onReplyAddr]

/-! ### Stage by stage -/

variable {proto : Codec}

theorem parseStage_means (hc : proto.Lawful) : Means proto (parseStage proto) ViewStage.pass := by
  intro ctx v h
  have hedit : ViewStage.editThen (fun msg => (.ok (), msg)) id v = (.ok true, v) := rfl
  have hpass : ViewStage.pass v = ViewStage.editThen (fun msg => (.ok (), msg)) id v := hedit.symm
  rw [hpass]
  exact modify_then_sees hc h id (fun _ _ h => h) rfl

theorem validateStage_means (localAddrs : List Ipv4Addr) :
    Means proto (validateStage proto localAddrs) (onValidate localAddrs) := by
  intro ctx v h
  simp only [validateStage, onValidate, h.decode, h.isTrustedCircuit]
  cases Giaddr.validate v.msg localAddrs v.isTrustedCircuit with
  | firstRelay => exact ⟨rfl, h⟩
  | trustedCircuit => exact ⟨rfl, h⟩
  | untrustedCircuit => exact ⟨rfl, h⟩
  | spoof => exact ⟨rfl, h⟩
  | reforwarded =>
      exact ⟨rfl, h.decode, h.dstAddr, rfl, rfl, h.metadata⟩

theorem option82InsertStage_means (hc : proto.Lawful) (circuitId remoteId : Option Bytes) :
    Means proto (option82InsertStage proto circuitId remoteId)
      (onOption82Insert circuitId remoteId) := by
  intro ctx v h
  simp only [option82InsertStage, onOption82Insert, h.isReforwarded]
  split
  · exact ⟨rfl, h⟩
  · exact modify_then_sees hc h _ (fun _ _ h => h.note "option82_inserted" "true") rfl

theorem vssInsertStage_means (hc : proto.Lawful) (vssConfig : VssConfig) :
    Means proto (vssInsertStage proto vssConfig) (onVssInsert vssConfig) := by
  intro ctx v h
  simp only [vssInsertStage, onVssInsert]
  split
  · exact ⟨rfl, h⟩
  · cases Vss.encodeSubOpts vssConfig with
    | error e => exact ⟨rfl, h⟩
    | ok encoded => exact modify_then_sees hc h _ (fun _ _ h => h.note "vss_inserted" "true") rfl

theorem giaddrStage_means (hc : proto.Lawful) (ifaceIp : Ipv4Addr) :
    Means proto (giaddrStage proto ifaceIp) (onGiaddr ifaceIp) := by
  intro ctx v h
  simp only [giaddrStage, onGiaddr, h.isReforwarded]
  split
  · exact ⟨rfl, h⟩
  · exact modify_then_sees hc h id (fun _ _ h => h) rfl

theorem forwardStage_means (dest : SocketAddr) :
    Means proto (forwardStage dest) (onForward dest) :=
  fun _ _ h => ⟨rfl, h.decode, rfl, h.isReforwarded, h.isTrustedCircuit, h.metadata⟩

/-- The check stage only logs. -/
theorem vssCheckStage_means (vssConfig : VssConfig) :
    Means proto (vssCheckStage proto vssConfig) ViewStage.pass := by
  intro ctx v h
  simp only [vssCheckStage, h.decode, ViewStage.pass]
  split
  · exact ⟨rfl, h⟩
  · exact ⟨rfl, h⟩

theorem option82StripStage_means (hc : proto.Lawful)
    (expected : Option (List Option82.SubOption)) :
    Means proto (option82StripStage proto expected) (onOption82Strip expected) :=
  fun _ _ h => modify_then_sees hc h id (fun _ _ h => h) rfl

theorem replyAddrStage_means : Means proto (replyAddrStage proto) onReplyAddr := by
  intro ctx v h
  have hrun : (replyAddrStage proto).process ctx
      = (.ok true, { ctx with dstAddr := some (replyAddr v.msg) }) := by
    simp only [replyAddrStage, h.decode]
  rw [hrun]
  exact ⟨rfl, h.decode, rfl, h.isReforwarded, h.isTrustedCircuit, h.metadata⟩

/-! ### The whole chains -/

/-- **The request pipeline means `requestMeaning`.** -/
theorem buildRequest_means (hc : proto.Lawful) (args : RequestArgs) :
    List.Forall₂ (Means proto) (buildRequest proto args).stages (requestMeaning args) := by
  have hdispatch : List.Forall₂ (Means proto)
      [giaddrStage proto args.ifaceIp, forwardStage args.serverAddr] (dispatch args) :=
    .cons (giaddrStage_means hc _) (.cons (forwardStage_means _) .nil)
  have hadmission : List.Forall₂ (Means proto)
      [parseStage proto, validateStage proto args.localAddrs] (admission args) :=
    .cons (parseStage_means hc) (.cons (validateStage_means _) .nil)
  simp only [buildRequest, Pipeline.withStages, requestMeaning, List.append_assoc]
  refine List.rel_append hadmission (List.rel_append ?_ (List.rel_append ?_ hdispatch))
  · unfold insertOption82
    split
    · exact .cons (option82InsertStage_means hc _ _) .nil
    · exact .nil
  · unfold insertVss
    cases args.vssConfig with
    | none => exact .nil
    | some cfg => exact .cons (vssInsertStage_means hc cfg) .nil

/-- **The reply pipeline means `replyMeaning`.** -/
theorem buildReply_means (hc : proto.Lawful) (expected : Option (List Option82.SubOption))
    (vssConfig : Option VssConfig) (enableOption82 : Bool) :
    List.Forall₂ (Means proto) (buildReply proto expected vssConfig enableOption82).stages
      (replyMeaning expected vssConfig enableOption82) := by
  simp only [buildReply, Pipeline.withStages, replyMeaning, List.append_assoc]
  refine List.rel_append (.cons (parseStage_means hc) .nil) (List.rel_append ?_
    (List.rel_append ?_ (.cons replyAddrStage_means .nil)))
  · cases vssConfig with
    | none => exact .nil
    | some cfg => exact .cons (vssCheckStage_means cfg) .nil
  · cases enableOption82 with
    | false => exact .nil
    | true => exact .cons (option82StripStage_means hc expected) .nil

end DhcpRelay.V4
