import UbsEngine.Convert.Response

/-!
# Responses as the client reads them

The library of the clients is written in C and shares no code with the server. It reads the
fields of a response off the buffer, with limits of its own: on the lengths of strings, on the
numbers of blocks and of importers, and on the lengths of lists.

Whatever it accepts keeps to these limits, and takes as many bytes as its fields have; the lemma
for each kind of descriptor is a case of `UbsEngine.Packed.Accepts`.
-/

namespace UbsEngine

namespace Convert

namespace Sdk

open Packed

/-- `ubs_error_t`. -/
inductive ubs_error_t where
  | UBS_ERR_BUFFER_TOO_SMALL
  | UBS_ERR_INVALID_ARG
  | UBS_ERR_OUT_OF_RANGE
  | UBS_ERR_OUT_OF_MEMORY
  | UBS_ERR_NULL_POINTER
  deriving DecidableEq

open ubs_error_t

/-- `unpack_ctx_t` and the functions that move it. -/
abbrev Unpack (α : Type) := Reader ubs_error_t α

def UBS_MEM_MAX_NAME_LENGTH : Nat := 48
def UBS_MEM_MAX_DESC_LIST : Nat := 2000
def UBS_TOPO_MAX_NODE_NUM : Nat := 512

/-! ### What the client gets -/

/-- `ubs_topo_node_t`. The nodes of other descriptors have no addresses and no super node, so
these are given as `UbsEngine.Convert.BaseNode`. -/
structure ubs_topo_node_t extends BaseNode where
  ips : List.Vector ubs_topo_ip_address_t UBS_TOPO_IPADDR_NUM
  super_pod_id : UInt16
  deriving DecidableEq

inductive ubs_mem_stage where
  | UBSE_NOT_EXIST
  | UBSE_CREATING
  | UBSE_DELETING
  | UBSE_EXIST
  | UBSE_ERR_ONLY_IMPORT
  | UBSE_ERR_WAIT_UNEXPORT
  | UBSE_ERR_ABNORMAL
  | UBSE_END
  deriving DecidableEq

structure ubs_mem_fd_desc_t where
  name : Text
  memids : List UInt64
  mem_size : UInt64
  unit_size : UInt64
  export_node : BaseNode
  import_node : BaseNode
  mem_stage : ubs_mem_stage
  deriving DecidableEq

structure ubs_mem_numa_desc_t where
  name : Text
  numaid : Int64
  export_node : BaseNode
  import_node : BaseNode
  size : UInt64
  mem_stage : ubs_mem_stage
  usrInfo : List.Vector UInt8 UBSE_MAX_USR_INFO_LEN
  deriving DecidableEq

structure ubs_mem_shm_import_desc_t where
  memids : List UInt64
  import_node : BaseNode
  mem_stage : ubs_mem_stage
  deriving DecidableEq

structure ubs_mem_shm_desc_t where
  name : Text
  mem_size : UInt64
  unit_size : UInt64
  export_node : BaseNode
  usr_info : List.Vector UInt8 UBSE_MAX_USR_INFO_LEN
  mem_stage : ubs_mem_stage
  import_desc : List ubs_mem_shm_import_desc_t
  deriving DecidableEq

/-! ### Fields -/

/-- A number. -/
def unpackWord (α : Type) [Word α] : Unpack α := getWord α UBS_ERR_BUFFER_TOO_SMALL

/-- A string after its length. -/
def unpack_string (max_len : Nat) : Unpack Text := do
  let str_len ← unpackWord UInt32
  check (str_len.toNat ≤ max_len) UBS_ERR_BUFFER_TOO_SMALL
  take UBS_ERR_BUFFER_TOO_SMALL str_len.toNat

def ubse_base_node_unpack_inner : Unpack BaseNode := do
  let slotId ← unpackWord UInt32
  let socketId ← times (unpackWord UInt32) UBS_TOPO_SOCKET_NUM
  let numaIds ← times (times (unpackWord UInt32) UBS_TOPO_NUMA_NUM) UBS_TOPO_SOCKET_NUM
  let hostName ← unpack_string (HOST_NAME_MAX - 1)
  pure { slotId, socketId, numaIds, hostName }

/-- One address of a node. -/
def unpackIp : Unpack ubs_topo_ip_address_t := do
  let af ← unpackWord Int32
  let ipv4 ← unpackWord UInt32
  let ipv6 ← unpackWord UInt64
  let ipv6High ← unpackWord UInt64
  pure { af, ipv4, ipv6, ipv6High }

/-- A node, whose super node is filled in later. -/
def ubse_node_unpack_inner : Unpack UbseNode := do
  let base ← ubse_base_node_unpack_inner
  let ips ← times unpackIp UBS_TOPO_IPADDR_NUM
  pure { base with ips }

def uint32_to_ubs_mem_stage (value : UInt32) : ubs_mem_stage :=
  if value = 0 then .UBSE_NOT_EXIST
  else if value = 1 then .UBSE_CREATING
  else if value = 2 then .UBSE_DELETING
  else if value = 3 then .UBSE_EXIST
  else if value = 4 then .UBSE_ERR_ONLY_IMPORT
  else if value = 5 then .UBSE_ERR_WAIT_UNEXPORT
  else if value = 6 then .UBSE_ERR_ABNORMAL
  else .UBSE_END

def unpackStage : Unpack ubs_mem_stage := do
  let state_value ← unpackWord UInt32
  pure (uint32_to_ubs_mem_stage state_value)

/-- The blocks of memory, after their number. -/
def unpackMemids : Unpack (List UInt64) := do
  let memid_cnt ← unpackWord UInt32
  check (memid_cnt.toNat ≤ UBS_MEM_MAX_MEMID_NUM) UBS_ERR_INVALID_ARG
  timesList (unpackWord UInt64) memid_cnt.toNat

/-! ### Descriptors -/

def ubse_mem_fd_desc_unpack_inner : Unpack ubs_mem_fd_desc_t := do
  let name ← unpack_string (UBS_MEM_MAX_NAME_LENGTH - 1)
  let memids ← unpackMemids
  let mem_size ← unpackWord UInt64
  let unit_size ← unpackWord UInt64
  let export_node ← ubse_base_node_unpack_inner
  let import_node ← ubse_base_node_unpack_inner
  let mem_stage ← unpackStage
  pure { name, memids, mem_size, unit_size, export_node, import_node, mem_stage }

def ubse_mem_numa_desc_unpack_inner : Unpack ubs_mem_numa_desc_t := do
  let name ← unpack_string (UBS_MEM_MAX_NAME_LENGTH - 1)
  let numaid ← unpackWord Int64
  let export_node ← ubse_base_node_unpack_inner
  let import_node ← ubse_base_node_unpack_inner
  let size ← unpackWord UInt64
  let mem_stage ← unpackStage
  let usrInfo ← times (unpackWord UInt8) UBSE_MAX_USR_INFO_LEN
  pure { name, numaid, export_node, import_node, size, mem_stage, usrInfo }

def ubse_mem_shm_import_desc_unpack : Unpack ubs_mem_shm_import_desc_t := do
  let memids ← unpackMemids
  let import_node ← ubse_base_node_unpack_inner
  let mem_stage ← unpackStage
  pure { memids, import_node, mem_stage }

/-- A descriptor, into memory that was allocated with or without room for importers. -/
def ubse_mem_shm_desc_unpack (import_desc : Bool) : Unpack ubs_mem_shm_desc_t := do
  let import_desc_cnt ← unpackWord UInt32
  check (import_desc_cnt.toNat ≤ UBS_TOPO_MAX_NODE_NUM) UBS_ERR_OUT_OF_RANGE
  let name ← unpack_string (UBS_MEM_MAX_NAME_LENGTH - 1)
  let mem_size ← unpackWord UInt64
  let unit_size ← unpackWord UInt64
  let export_node ← ubse_base_node_unpack_inner
  let usr_info ← times (unpackWord UInt8) UBSE_MAX_USR_INFO_LEN
  let mem_stage ← unpackStage
  check (import_desc_cnt.toNat = 0 ∨ import_desc = true) UBS_ERR_NULL_POINTER
  let importDescs ← timesList ubse_mem_shm_import_desc_unpack import_desc_cnt.toNat
  pure
    { name, mem_size, unit_size, export_node, usr_info, mem_stage, import_desc := importDescs }

/-! ### Whole responses -/

/-- A list after its length. -/
def unpackList {α : Type} (max : Nat) (p : Unpack α) : Unpack (List α) := do
  let cnt ← unpackWord UInt32
  check (cnt.toNat ≤ max) UBS_ERR_OUT_OF_RANGE
  timesList p cnt.toNat

/-- Memory for a descriptor, after a look at the number of importers. -/
def ubse_mem_shm_desc_alloc : Unpack Bool := fun buffer =>
  match unpackWord UInt32 buffer with
  | .error _ => .error UBS_ERR_OUT_OF_MEMORY
  | .ok (import_desc_cnt, _) =>
    if UBS_TOPO_MAX_NODE_NUM < import_desc_cnt.toNat then .error UBS_ERR_OUT_OF_MEMORY
    else .ok (decide (import_desc_cnt.toNat ≠ 0), buffer)

def ubse_mem_shm_get_resp_unpack : Unpack ubs_mem_shm_desc_t := do
  let import_desc ← ubse_mem_shm_desc_alloc
  ubse_mem_shm_desc_unpack import_desc

/-- The number of importers of a descriptor. -/
def unpackImportCnt : Unpack UInt32 := do
  let import_desc_count ← unpackWord UInt32
  check (import_desc_count.toNat ≤ UBS_TOPO_MAX_NODE_NUM) UBS_ERR_OUT_OF_RANGE
  pure import_desc_count

/-- The numbers of importers of all descriptors. -/
def ubse_mem_shm_list_extract_counts (cnt : Nat) : Unpack (List UInt32) :=
  timesList unpackImportCnt cnt

/-- Memory is set aside for importers where their number is not zero. -/
def ubse_mem_shm_list_unpack_data : List UInt32 → Unpack (List ubs_mem_shm_desc_t)
  | [] => pure []
  | count :: counts => do
    let desc ← ubse_mem_shm_desc_unpack (decide (count.toNat ≠ 0))
    let descs ← ubse_mem_shm_list_unpack_data counts
    pure (desc :: descs)

def ubse_mem_shm_list_resp_unpack : Unpack (List ubs_mem_shm_desc_t) := do
  let shm_desc_cnt ← unpackWord UInt32
  check (shm_desc_cnt.toNat ≤ UBS_MEM_MAX_DESC_LIST) UBS_ERR_OUT_OF_RANGE
  let counts ← ubse_mem_shm_list_extract_counts shm_desc_cnt.toNat
  ubse_mem_shm_list_unpack_data counts

/-- The super node follows the nodes; servers of older versions do not send it. -/
def unpackSuperPodId : Unpack UInt16 := fun buffer =>
  match unpackWord UInt16 buffer with
  | .error _ => .ok (0, buffer)
  | .ok (superPodId, rest) => .ok (superPodId, rest)

def ubse_node_unpack : Unpack ubs_topo_node_t := do
  let node ← ubse_node_unpack_inner
  let super_pod_id ← unpackSuperPodId
  pure { node with super_pod_id }

def ubse_node_list_unpack : Unpack (List ubs_topo_node_t) := do
  let nodes ← unpackList UBS_TOPO_MAX_NODE_NUM ubse_node_unpack_inner
  if nodes.isEmpty then pure []
  else do
    let super_pod_id ← unpackSuperPodId
    pure (nodes.map fun node => { node with super_pod_id })

/-! ### Bytes of what the client gets -/

def stringBytes (str : Text) : List UInt8 := wordBytes (UInt32.ofNat str.length) ++ str

def memidsBytes (memids : List UInt64) : List UInt8 :=
  wordBytes (UInt32.ofNat memids.length) ++ memids.flatMap wordBytes

def nodeBytes (node : BaseNode) : List UInt8 :=
  wordBytes node.slotId ++ (vectorBytes wordBytes node.socketId ++
    (vectorBytes (vectorBytes wordBytes) node.numaIds ++ stringBytes node.hostName))

def ipBytes (ip : ubs_topo_ip_address_t) : List UInt8 :=
  wordBytes ip.af ++ (wordBytes ip.ipv4 ++ (wordBytes ip.ipv6 ++ wordBytes ip.ipv6High))

def topoBytes (node : UbseNode) : List UInt8 :=
  nodeBytes node.toBaseNode ++ vectorBytes ipBytes node.ips

def ubs_mem_stage.value : ubs_mem_stage → UInt32
  | UBSE_NOT_EXIST => 0
  | UBSE_CREATING => 1
  | UBSE_DELETING => 2
  | UBSE_EXIST => 3
  | UBSE_ERR_ONLY_IMPORT => 4
  | UBSE_ERR_WAIT_UNEXPORT => 5
  | UBSE_ERR_ABNORMAL => 6
  | UBSE_END => 7

def stageBytes (stage : ubs_mem_stage) : List UInt8 := wordBytes stage.value

def fdBytes (desc : ubs_mem_fd_desc_t) : List UInt8 :=
  stringBytes desc.name ++ (memidsBytes desc.memids ++ (wordBytes desc.mem_size ++
    (wordBytes desc.unit_size ++ (nodeBytes desc.export_node ++ (nodeBytes desc.import_node ++
      stageBytes desc.mem_stage)))))

def numaBytes (desc : ubs_mem_numa_desc_t) : List UInt8 :=
  stringBytes desc.name ++ (wordBytes desc.numaid ++ (nodeBytes desc.export_node ++
    (nodeBytes desc.import_node ++ (wordBytes desc.size ++ (stageBytes desc.mem_stage ++
      vectorBytes wordBytes desc.usrInfo)))))

def shmImportBytes (desc : ubs_mem_shm_import_desc_t) : List UInt8 :=
  memidsBytes desc.memids ++ (nodeBytes desc.import_node ++ stageBytes desc.mem_stage)

/-- The number of importers, which is packed before a descriptor. -/
def importCntBytes (desc : ubs_mem_shm_desc_t) : List UInt8 :=
  wordBytes (UInt32.ofNat desc.import_desc.length)

def shmBytes (desc : ubs_mem_shm_desc_t) : List UInt8 :=
  importCntBytes desc ++ (stringBytes desc.name ++ (wordBytes desc.mem_size ++
    (wordBytes desc.unit_size ++ (nodeBytes desc.export_node ++
      (vectorBytes wordBytes desc.usr_info ++ (stageBytes desc.mem_stage ++
        desc.import_desc.flatMap shmImportBytes))))))

/-! ### The limits of the client -/

structure NodeWithin (node : BaseNode) : Prop where
  hostName : node.hostName.length < HOST_NAME_MAX

structure FdWithin (desc : ubs_mem_fd_desc_t) : Prop where
  name : desc.name.length < UBS_MEM_MAX_NAME_LENGTH
  memids : desc.memids.length ≤ UBS_MEM_MAX_MEMID_NUM
  export_node : NodeWithin desc.export_node
  import_node : NodeWithin desc.import_node

structure NumaWithin (desc : ubs_mem_numa_desc_t) : Prop where
  name : desc.name.length < UBS_MEM_MAX_NAME_LENGTH
  export_node : NodeWithin desc.export_node
  import_node : NodeWithin desc.import_node

structure ShmImportWithin (desc : ubs_mem_shm_import_desc_t) : Prop where
  memids : desc.memids.length ≤ UBS_MEM_MAX_MEMID_NUM
  import_node : NodeWithin desc.import_node

structure ShmWithin (desc : ubs_mem_shm_desc_t) : Prop where
  name : desc.name.length < UBS_MEM_MAX_NAME_LENGTH
  export_node : NodeWithin desc.export_node
  import_desc : desc.import_desc.length ≤ UBS_TOPO_MAX_NODE_NUM
  importers : ∀ d ∈ desc.import_desc, ShmImportWithin d

/-! ### What the client accepts -/

theorem accepts_word (α : Type) [Word α] : Accepts (unpackWord α) (fun _ => True) wordBytes :=
  accepts_getWord _

theorem accepts_string {max_len : Nat} :
    Accepts (unpack_string max_len) (fun str => str.length ≤ max_len) stringBytes := by
  intro bs rest str h
  obtain ⟨len, mid, hlen, h⟩ := bind_eq_ok.1 h
  obtain ⟨u, mid', hcheck, h⟩ := bind_eq_ok.1 h
  obtain ⟨hle, rfl⟩ := check_eq_ok hcheck
  obtain ⟨hstr, rfl⟩ := take_eq_ok h
  have hword := (accepts_word UInt32 hlen).2
  rw [stringBytes, List.length_append, length_wordBytes, hstr]
  rw [length_wordBytes, List.length_append, hstr] at hword
  refine ⟨?_, by omega⟩
  rw [← hstr] at hle
  exact hle

theorem accepts_memids :
    Accepts unpackMemids (fun memids => memids.length ≤ UBS_MEM_MAX_MEMID_NUM) memidsBytes := by
  intro bs rest memids h
  obtain ⟨cnt, mid, hcnt, h⟩ := bind_eq_ok.1 h
  obtain ⟨u, mid', hcheck, h⟩ := bind_eq_ok.1 h
  obtain ⟨hle, rfl⟩ := check_eq_ok hcheck
  obtain ⟨⟨hlen, -⟩, hrest⟩ := (accepts_word UInt64).timesList _ h
  have hword := (accepts_word UInt32 hcnt).2
  rw [memidsBytes, List.length_append, length_wordBytes]
  rw [length_wordBytes] at hword
  refine ⟨?_, by omega⟩
  rw [← hlen] at hle
  exact hle

theorem accepts_node : Accepts ubse_base_node_unpack_inner NodeWithin nodeBytes := by
  intro bs rest node h
  obtain ⟨slotId, m₁, h₁, h⟩ := bind_eq_ok.1 h
  obtain ⟨socketId, m₂, h₂, h⟩ := bind_eq_ok.1 h
  obtain ⟨numaIds, m₃, h₃, h⟩ := bind_eq_ok.1 h
  obtain ⟨hostName, m₄, h₄, h⟩ := bind_eq_ok.1 h
  obtain ⟨rfl, rfl⟩ := pure_eq_ok.1 h
  have hslot := (accepts_word UInt32 h₁).2
  have hsockets := ((accepts_word UInt32).times _ h₂).2
  have hnumas := (((accepts_word UInt32).times UBS_TOPO_NUMA_NUM).times _ h₃).2
  obtain ⟨hhost, hname⟩ := accepts_string h₄
  refine ⟨⟨Nat.lt_of_le_of_lt hhost (by decide)⟩, ?_⟩
  simp only [nodeBytes, List.length_append]
  omega

theorem accepts_ip : Accepts unpackIp (fun _ => True) ipBytes := by
  intro bs rest ip h
  obtain ⟨af, m₁, h₁, h⟩ := bind_eq_ok.1 h
  obtain ⟨ipv4, m₂, h₂, h⟩ := bind_eq_ok.1 h
  obtain ⟨ipv6, m₃, h₃, h⟩ := bind_eq_ok.1 h
  obtain ⟨ipv6High, m₄, h₄, h⟩ := bind_eq_ok.1 h
  obtain ⟨rfl, rfl⟩ := pure_eq_ok.1 h
  have h₁ := (accepts_word Int32 h₁).2
  have h₂ := (accepts_word UInt32 h₂).2
  have h₃ := (accepts_word UInt64 h₃).2
  have h₄ := (accepts_word UInt64 h₄).2
  refine ⟨trivial, ?_⟩
  simp only [ipBytes, List.length_append]
  omega

theorem accepts_topo :
    Accepts ubse_node_unpack_inner (fun node => NodeWithin node.toBaseNode) topoBytes := by
  intro bs rest node h
  obtain ⟨base, m₁, h₁, h⟩ := bind_eq_ok.1 h
  obtain ⟨ips, m₂, h₂, h⟩ := bind_eq_ok.1 h
  obtain ⟨rfl, rfl⟩ := pure_eq_ok.1 h
  obtain ⟨hwithin, hbase⟩ := accepts_node h₁
  have hips := (accepts_ip.times _ h₂).2
  refine ⟨hwithin, ?_⟩
  simp only [topoBytes, List.length_append]
  omega

theorem accepts_stage : Accepts unpackStage (fun _ => True) stageBytes := by
  intro bs rest stage h
  obtain ⟨value, m₁, h₁, h⟩ := bind_eq_ok.1 h
  obtain ⟨rfl, rfl⟩ := pure_eq_ok.1 h
  have hword := (accepts_word UInt32 h₁).2
  rw [length_wordBytes] at hword
  rw [stageBytes, length_wordBytes]
  exact ⟨trivial, hword⟩

theorem accepts_fd : Accepts ubse_mem_fd_desc_unpack_inner FdWithin fdBytes := by
  intro bs rest desc h
  obtain ⟨name, m₁, h₁, h⟩ := bind_eq_ok.1 h
  obtain ⟨memids, m₂, h₂, h⟩ := bind_eq_ok.1 h
  obtain ⟨mem_size, m₃, h₃, h⟩ := bind_eq_ok.1 h
  obtain ⟨unit_size, m₄, h₄, h⟩ := bind_eq_ok.1 h
  obtain ⟨export_node, m₅, h₅, h⟩ := bind_eq_ok.1 h
  obtain ⟨import_node, m₆, h₆, h⟩ := bind_eq_ok.1 h
  obtain ⟨mem_stage, m₇, h₇, h⟩ := bind_eq_ok.1 h
  obtain ⟨rfl, rfl⟩ := pure_eq_ok.1 h
  obtain ⟨hname, h₁⟩ := accepts_string h₁
  obtain ⟨hmemids, h₂⟩ := accepts_memids h₂
  have h₃ := (accepts_word UInt64 h₃).2
  have h₄ := (accepts_word UInt64 h₄).2
  obtain ⟨hexport, h₅⟩ := accepts_node h₅
  obtain ⟨himport, h₆⟩ := accepts_node h₆
  have h₇ := (accepts_stage h₇).2
  refine ⟨⟨Nat.lt_of_le_of_lt hname (by decide), hmemids, hexport, himport⟩, ?_⟩
  simp only [fdBytes, List.length_append]
  omega

theorem accepts_numa : Accepts ubse_mem_numa_desc_unpack_inner NumaWithin numaBytes := by
  intro bs rest desc h
  obtain ⟨name, m₁, h₁, h⟩ := bind_eq_ok.1 h
  obtain ⟨numaid, m₂, h₂, h⟩ := bind_eq_ok.1 h
  obtain ⟨export_node, m₃, h₃, h⟩ := bind_eq_ok.1 h
  obtain ⟨import_node, m₄, h₄, h⟩ := bind_eq_ok.1 h
  obtain ⟨size, m₅, h₅, h⟩ := bind_eq_ok.1 h
  obtain ⟨mem_stage, m₆, h₆, h⟩ := bind_eq_ok.1 h
  obtain ⟨usrInfo, m₇, h₇, h⟩ := bind_eq_ok.1 h
  obtain ⟨rfl, rfl⟩ := pure_eq_ok.1 h
  obtain ⟨hname, h₁⟩ := accepts_string h₁
  have h₂ := (accepts_word Int64 h₂).2
  obtain ⟨hexport, h₃⟩ := accepts_node h₃
  obtain ⟨himport, h₄⟩ := accepts_node h₄
  have h₅ := (accepts_word UInt64 h₅).2
  have h₆ := (accepts_stage h₆).2
  have h₇ := ((accepts_word UInt8).times _ h₇).2
  refine ⟨⟨Nat.lt_of_le_of_lt hname (by decide), hexport, himport⟩, ?_⟩
  simp only [numaBytes, List.length_append]
  omega

theorem accepts_shmImport :
    Accepts ubse_mem_shm_import_desc_unpack ShmImportWithin shmImportBytes := by
  intro bs rest desc h
  obtain ⟨memids, m₁, h₁, h⟩ := bind_eq_ok.1 h
  obtain ⟨import_node, m₂, h₂, h⟩ := bind_eq_ok.1 h
  obtain ⟨mem_stage, m₃, h₃, h⟩ := bind_eq_ok.1 h
  obtain ⟨rfl, rfl⟩ := pure_eq_ok.1 h
  obtain ⟨hmemids, h₁⟩ := accepts_memids h₁
  obtain ⟨himport, h₂⟩ := accepts_node h₂
  have h₃ := (accepts_stage h₃).2
  refine ⟨⟨hmemids, himport⟩, ?_⟩
  simp only [shmImportBytes, List.length_append]
  omega

theorem accepts_shm (import_desc : Bool) :
    Accepts (ubse_mem_shm_desc_unpack import_desc) ShmWithin shmBytes := by
  intro bs rest desc h
  obtain ⟨cnt, m₁, h₁, h⟩ := bind_eq_ok.1 h
  obtain ⟨u, m₂, h₂, h⟩ := bind_eq_ok.1 h
  obtain ⟨name, m₃, h₃, h⟩ := bind_eq_ok.1 h
  obtain ⟨mem_size, m₄, h₄, h⟩ := bind_eq_ok.1 h
  obtain ⟨unit_size, m₅, h₅, h⟩ := bind_eq_ok.1 h
  obtain ⟨export_node, m₆, h₆, h⟩ := bind_eq_ok.1 h
  obtain ⟨usr_info, m₇, h₇, h⟩ := bind_eq_ok.1 h
  obtain ⟨mem_stage, m₈, h₈, h⟩ := bind_eq_ok.1 h
  obtain ⟨u', m₉, h₉, h⟩ := bind_eq_ok.1 h
  obtain ⟨importDescs, m₁₀, h₁₀, h⟩ := bind_eq_ok.1 h
  obtain ⟨rfl, rfl⟩ := pure_eq_ok.1 h
  have h₁ := (accepts_word UInt32 h₁).2
  obtain ⟨hcnt, rfl⟩ := check_eq_ok h₂
  obtain ⟨hname, h₃⟩ := accepts_string h₃
  have h₄ := (accepts_word UInt64 h₄).2
  have h₅ := (accepts_word UInt64 h₅).2
  obtain ⟨hexport, h₆⟩ := accepts_node h₆
  have h₇ := ((accepts_word UInt8).times _ h₇).2
  have h₈ := (accepts_stage h₈).2
  obtain ⟨-, rfl⟩ := check_eq_ok h₉
  obtain ⟨⟨hlen, himports⟩, h₁₀⟩ := accepts_shmImport.timesList _ h₁₀
  refine ⟨⟨Nat.lt_of_le_of_lt hname (by decide), hexport, hlen ▸ hcnt, himports⟩, ?_⟩
  rw [length_wordBytes] at h₁ h₄ h₅
  simp only [shmBytes, importCntBytes, List.length_append, length_wordBytes]
  omega

theorem accepts_list {α : Type} {max : Nat} {p : Unpack α} {P : α → Prop} {f : α → List UInt8}
    (hp : Accepts p P f) :
    Accepts (unpackList max p) (fun l => l.length ≤ max ∧ ∀ a ∈ l, P a)
      (fun l => wordBytes (UInt32.ofNat l.length) ++ l.flatMap f) := by
  intro bs rest l h
  obtain ⟨cnt, m₁, h₁, h⟩ := bind_eq_ok.1 h
  obtain ⟨u, m₂, h₂, h⟩ := bind_eq_ok.1 h
  have hword := (accepts_word UInt32 h₁).2
  obtain ⟨hcnt, rfl⟩ := check_eq_ok h₂
  obtain ⟨⟨hlen, hall⟩, hrest⟩ := hp.timesList _ h
  rw [← hlen] at hcnt
  refine ⟨⟨hcnt, hall⟩, ?_⟩
  rw [length_wordBytes] at hword
  rw [List.length_append, length_wordBytes]
  omega

theorem accepts_shmResponse : Accepts ubse_mem_shm_get_resp_unpack ShmWithin shmBytes := by
  intro bs rest desc h
  obtain ⟨import_desc, mid, halloc, hdesc⟩ := bind_eq_ok.1 h
  -- The look at the number of importers takes nothing off the buffer.
  have hmid : mid = bs := by
    rw [ubse_mem_shm_desc_alloc] at halloc
    split at halloc
    · exact nomatch halloc
    · split at halloc
      · exact nomatch halloc
      · exact (Prod.mk.inj (Except.ok.inj halloc)).2.symm
  subst hmid
  exact accepts_shm import_desc hdesc

theorem accepts_shmData (counts : List UInt32) :
    Accepts (ubse_mem_shm_list_unpack_data counts)
      (fun descs => descs.length = counts.length ∧ ∀ desc ∈ descs, ShmWithin desc)
      (List.flatMap shmBytes) := by
  induction counts with
  | nil =>
    intro bs rest descs h
    obtain ⟨rfl, rfl⟩ := pure_eq_ok.1 h
    exact ⟨⟨rfl, fun _ h => (nomatch h)⟩, (Nat.zero_add _).symm⟩
  | cons count counts ih =>
    intro bs rest descs h
    obtain ⟨desc, m₁, h₁, h⟩ := bind_eq_ok.1 h
    obtain ⟨descs', m₂, h₂, h⟩ := bind_eq_ok.1 h
    obtain ⟨rfl, rfl⟩ := pure_eq_ok.1 h
    obtain ⟨hdesc, h₁⟩ := accepts_shm _ h₁
    obtain ⟨⟨hlen, hdescs⟩, h₂⟩ := ih h₂
    refine ⟨⟨congrArg Nat.succ hlen, List.forall_mem_cons.2 ⟨hdesc, hdescs⟩⟩, ?_⟩
    rw [List.flatMap_cons, List.length_append]
    omega

theorem accepts_importCnt : Accepts unpackImportCnt (fun _ => True) wordBytes := by
  intro bs rest cnt h
  obtain ⟨cnt', m₁, h₁, h⟩ := bind_eq_ok.1 h
  obtain ⟨u, m₂, h₂, h⟩ := bind_eq_ok.1 h
  obtain ⟨rfl, rfl⟩ := pure_eq_ok.1 h
  obtain ⟨-, rfl⟩ := check_eq_ok h₂
  exact accepts_word UInt32 h₁

/-- The numbers of importers come twice: of all descriptors first, and with each of them. -/
theorem accepts_shmList :
    Accepts ubse_mem_shm_list_resp_unpack
      (fun descs => descs.length ≤ UBS_MEM_MAX_DESC_LIST ∧ ∀ desc ∈ descs, ShmWithin desc)
      (fun descs => wordBytes (UInt32.ofNat descs.length) ++
        (descs.flatMap importCntBytes ++ descs.flatMap shmBytes)) := by
  intro bs rest descs h
  obtain ⟨cnt, m₁, h₁, h⟩ := bind_eq_ok.1 h
  obtain ⟨u, m₂, h₂, h⟩ := bind_eq_ok.1 h
  obtain ⟨counts, m₃, h₃, hdata⟩ := bind_eq_ok.1 h
  have h₁ := (accepts_word UInt32 h₁).2
  obtain ⟨hcnt, rfl⟩ := check_eq_ok h₂
  obtain ⟨⟨hcounts, -⟩, h₃⟩ := accepts_importCnt.timesList _ h₃
  obtain ⟨⟨hlen, hdescs⟩, hdata⟩ := accepts_shmData counts hdata
  have hlength : ∀ l : List ubs_mem_shm_desc_t,
      (l.flatMap importCntBytes).length = l.length * Word.size UInt32 := fun l =>
    length_flatMap_const l fun _ _ => length_wordBytes _
  rw [length_flatMap_const counts fun _ _ => length_wordBytes _, ← hlen] at h₃
  rw [← hcounts, ← hlen] at hcnt
  refine ⟨⟨hcnt, hdescs⟩, ?_⟩
  rw [length_wordBytes] at h₁
  rw [List.length_append, List.length_append, length_wordBytes, hlength]
  omega

end Sdk

end Convert

end UbsEngine
