import EdgeGateway.Lib.Markup
import EdgeGateway.Logger
import EdgeGateway.Registry

/-!
The tables that the dashboard page writes as HTML: `drawDevices` and `drawLogs`.

The page joins texts from the gateway into markup. The names of a device are whatever its
packets say, and a message of the log may quote them. `safe` escapes these; the level of a
record and the number of packets are written as they are.

`tables_read`: whatever packets and messages came in, the markup reads as the rows of the
table with the texts of their cells, so no text becomes part of the page but as a text.
-/

namespace EdgeGateway.Panel

open EdgeGateway.Lib EdgeGateway.Lib.Markup EdgeGateway.Utils EdgeGateway.Devices
  EdgeGateway.Logger

/-! ### The script -/

/-- `safe`: the text of a value, as the browser serialises it. -/
def safe (value : Text) : Text := escape value

/-- The row of a device. -/
def deviceRow (device : Device) : Text :=
  "<tr><td>".toList ++ safe device.deviceName ++ "</td><td>".toList ++ safe device.nodeId ++
    "</td>".toList ++ "<td>".toList ++ safe device.ipAddress.toList ++ "</td><td>".toList ++
    safe device.lastSeen.toList ++ "</td>".toList ++
    "<td>".toList ++ Nat.toDigits 10 device.packetCount ++ "</td></tr>".toList

/-- `drawDevices`. The empty text is false. -/
def drawDevices (devices : List Device) : Text :=
  let rows := devices.flatMap deviceRow
  if rows = [] then "<tr><td colspan=\"5\">No devices observed</td></tr>".toList else rows

/-- The row of a record. -/
def logRow (log : Entry) : Text :=
  "<div class=\"log ".toList ++ log.level.toList ++ "\"><span>".toList ++
    safe log.timestamp.toList ++ "</span>".toList ++
    "<b>".toList ++ log.level.toList ++ "</b> ".toList ++ safe log.message.toList ++
    "</div>".toList

/-- `drawLogs`: the newest record first. -/
def drawLogs (logs : List Entry) : Text := logs.reverse.flatMap logRow

/-! ### The rows -/

def opening (name : String) : Token := .startTag name.toList []

def closing (name : String) : Token := .endTag name.toList

def text (content : Text) : List Token := (newlines content).map .char

def cell (content : Text) : List Token := opening "td" :: text content ++ [closing "td"]

def deviceTokens (device : Device) : List Token :=
  opening "tr" :: cell device.deviceName ++ cell device.nodeId ++ cell device.ipAddress.toList ++
    cell device.lastSeen.toList ++ cell (Nat.toDigits 10 device.packetCount) ++ [closing "tr"]

/-- The rows of the devices, or the one that says that there are none. -/
def devicesTokens : List Device → List Token
  | [] => [opening "tr", .startTag "td".toList [("colspan".toList, "5".toList)]] ++
      text "No devices observed".toList ++ [closing "td", closing "tr"]
  | devices => devices.flatMap deviceTokens

def logTokens (log : Entry) : List Token :=
  [.startTag "div".toList [("class".toList, "log ".toList ++ log.level.toList)], opening "span"] ++
    text log.timestamp.toList ++ [closing "span", opening "b"] ++ text log.level.toList ++
    [closing "b"] ++ text (' ' :: log.message.toList) ++ [closing "div"]

/-! ### The rows as templates -/

def rowOpen : Tag where
  html := "<tr><td>".toList
  tokens := [opening "tr", opening "td"]
  reads := rfl
  opens := rfl
  plain := by decide

def cellOpen : Tag where
  html := "<td>".toList
  tokens := [opening "td"]
  reads := rfl
  opens := rfl
  plain := by decide

def cellClose : Tag where
  html := "</td>".toList
  tokens := [closing "td"]
  reads := rfl
  opens := rfl
  plain := by decide

def cellNext : Tag where
  html := "</td><td>".toList
  tokens := [closing "td", opening "td"]
  reads := rfl
  opens := rfl
  plain := by decide

def rowClose : Tag where
  html := "</td></tr>".toList
  tokens := [closing "td", closing "tr"]
  reads := rfl
  opens := rfl
  plain := by decide

def deviceTemplate (device : Device) : Template :=
  [([], rowOpen), (device.deviceName, cellNext), (device.nodeId, cellClose), ([], cellOpen),
    (device.ipAddress.toList, cellNext), (device.lastSeen.toList, cellClose), ([], cellOpen),
    (Nat.toDigits 10 device.packetCount, rowClose)]

theorem word_digits (n : Nat) : Word (Nat.toDigits 10 n) := by
  intro c mem
  have digit : c.isDigit = true := Nat.isDigit_of_mem_toDigits (by decide) (by decide) mem
  unfold Char.isAlphanum
  rw [digit, Bool.or_true]

/-- The number of packets is not escaped, and needs no escaping. -/
theorem deviceRow_eq (device : Device) : deviceRow device = (deviceTemplate device).render := by
  have row : rowOpen.html = "<tr><td>".toList := rfl
  have opens : cellOpen.html = "<td>".toList := rfl
  have closes : cellClose.html = "</td>".toList := rfl
  have next : cellNext.html = "</td><td>".toList := rfl
  have last : rowClose.html = "</td></tr>".toList := rfl
  have nothing : escape [] = [] := rfl
  have digits := (word_digits device.packetCount).escape_eq
  unfold deviceRow deviceTemplate safe
  simp only [Template.render_cons, Template.render_nil, row, opens, closes, next, last,
    nothing, digits, List.append_assoc, List.nil_append, List.append_nil, -String.reduceToList]

theorem deviceTemplate_tokens (device : Device) :
    (deviceTemplate device).tokens = deviceTokens device := by
  have row : rowOpen.tokens = [opening "tr", opening "td"] := rfl
  have opens : cellOpen.tokens = [opening "td"] := rfl
  have closes : cellClose.tokens = [closing "td"] := rfl
  have next : cellNext.tokens = [closing "td", opening "td"] := rfl
  have last : rowClose.tokens = [closing "td", closing "tr"] := rfl
  have nothing : (newlines []).map Token.char = [] := rfl
  unfold deviceTemplate deviceTokens cell text
  simp only [Template.tokens_cons, Template.tokens_nil, row, opens, closes, next, last, nothing,
    List.append_assoc, List.cons_append, List.nil_append, List.append_nil, -String.reduceToList]

/-! ### The rows of the log -/

/-- What stands in front of the time of a record. -/
def logOpen (level : Text) (word : Word level) : Tag where
  html := "<div class=\"log ".toList ++ level ++ "\"><span>".toList
  tokens := [.startTag "div".toList [("class".toList, "log ".toList ++ level)], opening "span"]
  reads := by
    have before : read .data "<div class=\"log ".toList =
        some (.value "div".toList [] "class".toList "log ".toList, []) := rfl
    have behind : read (.value "div".toList [] "class".toList ("log ".toList ++ level))
        "\"><span>".toList = some (.data, [.startTag "div".toList
          [("class".toList, "log ".toList ++ level)], opening "span"]) := rfl
    exact read_append (read_append before (word.read_value _ _ _ _)) behind
  opens := rfl
  plain := by
    rw [List.mem_append, List.mem_append]
    rintro ((before | inside) | behind)
    · exact absurd before (by decide)
    · exact word.apart inside rfl rfl
    · exact absurd behind (by decide)

def spanClose : Tag where
  html := "</span><b>".toList
  tokens := [closing "span", opening "b"]
  reads := rfl
  opens := rfl
  plain := by decide

def boldClose : Tag where
  html := "</b>".toList
  tokens := [closing "b"]
  reads := rfl
  opens := rfl
  plain := by decide

def divClose : Tag where
  html := "</div>".toList
  tokens := [closing "div"]
  reads := rfl
  opens := rfl
  plain := by decide

def logTemplate (log : Entry) (word : Word log.level.toList) : Template :=
  [([], logOpen log.level.toList word), (log.timestamp.toList, spanClose),
    (log.level.toList, boldClose), (' ' :: log.message.toList, divClose)]

theorem logRow_eq (log : Entry) (word : Word log.level.toList) :
    logRow log = (logTemplate log word).render := by
  have opens : (logOpen log.level.toList word).html =
    "<div class=\"log ".toList ++ log.level.toList ++ "\"><span>".toList := rfl
  have span : spanClose.html = "</span>".toList ++ "<b>".toList := rfl
  have bold : boldClose.html = "</b>".toList := rfl
  have close : divClose.html = "</div>".toList := rfl
  have nothing : escape [] = [] := rfl
  have message : "</b> ".toList ++ (escape log.message.toList ++ "</div>".toList) =
      "</b>".toList ++ (escape (' ' :: log.message.toList) ++ "</div>".toList) := rfl
  unfold logRow logTemplate
  simp only [Template.render_cons, Template.render_nil, opens, span, bold, close, nothing,
    word.escape_eq, message, safe, List.append_assoc, List.nil_append, List.append_nil,
    -String.reduceToList]

theorem logTemplate_tokens (log : Entry) (word : Word log.level.toList) :
    (logTemplate log word).tokens = logTokens log := by
  have opens : (logOpen log.level.toList word).tokens =
    [.startTag "div".toList [("class".toList, "log ".toList ++ log.level.toList)],
      opening "span"] := rfl
  have span : spanClose.tokens = [closing "span", opening "b"] := rfl
  have bold : boldClose.tokens = [closing "b"] := rfl
  have close : divClose.tokens = [closing "div"] := rfl
  have nothing : (newlines []).map Token.char = [] := rfl
  unfold logTemplate logTokens text
  simp only [Template.tokens_cons, Template.tokens_nil, opens, span, bold, close, nothing,
    List.append_assoc, List.cons_append, List.nil_append, List.append_nil, -String.reduceToList]

/-! ### The tables -/

def emptyOpen : Tag where
  html := "<tr><td colspan=\"5\">".toList
  tokens := [opening "tr", .startTag "td".toList [("colspan".toList, "5".toList)]]
  reads := rfl
  opens := rfl
  plain := by decide

theorem deviceRow_ne_nil (device : Device) : deviceRow device ≠ [] := by
  rw [deviceRow_eq]
  exact List.cons_ne_nil _ _

theorem drawDevices_renders (devices : List Device) :
    Renders (drawDevices devices) (devicesTokens devices) := by
  cases devices with
  | nil => exact ⟨[([], emptyOpen), ("No devices observed".toList, rowClose)], rfl, rfl⟩
  | cons device rest =>
      have filled : (device :: rest).flatMap deviceRow ≠ [] := by
        rw [List.flatMap_cons]
        exact List.append_ne_nil_of_left_ne_nil (deviceRow_ne_nil device) _
      unfold drawDevices
      dsimp only
      rw [if_neg filled]
      apply Renders.flatMap
      intro device _
      exact ⟨deviceTemplate device, (deviceRow_eq device).symm, deviceTemplate_tokens device⟩

/-- A level is a word. -/
theorem drawLogs_renders {logs : List Entry} (words : ∀ log ∈ logs, Word log.level.toList) :
    Renders (drawLogs logs) (logs.reverse.flatMap logTokens) := by
  apply Renders.flatMap
  intro log mem
  have word := words log (List.mem_reverse.mp mem)
  exact ⟨logTemplate log word, (logRow_eq log word).symm, logTemplate_tokens log word⟩

/-! ### The records of the log -/

theorem word_append {capacity : Nat} {logs : List Entry} {entry : Entry}
    (words : ∀ log ∈ logs, Word log.level.toList) (word : Word entry.level.toList) :
    ∀ log ∈ Logger.append capacity logs entry, Word log.level.toList := by
  intro log mem
  rcases List.mem_append.mp (List.mem_of_mem_drop mem) with old | new
  · exact words log old
  · rw [List.mem_singleton.mp new]
    exact word

/-- Every record was made at one of the three levels. -/
theorem word_records (capacity : Nat) (is : List Logger.Input) :
    ∀ log ∈ records capacity is, Word log.level.toList := by
  induction is using List.reverseRecOn with
  | nil =>
      intro log mem
      cases mem
  | append_singleton is i ih =>
      unfold records at ih ⊢
      rw [List.foldl_append]
      cases i with
      | info now message => exact word_append ih (by decide : Word "INFO".toList)
      | warning now message => exact word_append ih (by decide : Word "WARNING".toList)
      | error now message => exact word_append ih (by decide : Word "ERROR".toList)
      | trim keep => exact fun log mem => ih log (List.mem_of_mem_drop mem)

/-- **The tables show the texts of the gateway as texts.** Whatever packets came in and
whatever was logged, the markup of the two tables reads as their rows, a cell for each
value, and the values are text between these tags. -/
theorem tables_read {capacity : Nat} (pos : 1 ≤ capacity) (is : List Logger.Input) (limit : Int)
    (clock : Clock) (bound : Nat) (updates : List Update) :
    (∃ g logs, Run (system capacity) is g ∧ g.entries limit = some (logs.map Entry.toDict) ∧
      tokenize (drawLogs logs) = some (logs.reverse.flatMap logTokens)) ∧
    tokenize (drawDevices (registry clock bound updates).list) =
      some (devicesTokens (registry clock bound updates).list) := by
  obtain ⟨g, run, holds⟩ := run_holds pos is
  have words : ∀ log ∈ latest limit (records capacity is), Word log.level.toList :=
    fun log mem => word_records capacity is log (List.mem_of_mem_drop mem)
  exact ⟨⟨g, _, run, holds.entries limit, (drawLogs_renders words).tokenize⟩,
    (drawDevices_renders _).tokenize⟩

/-- The row of a device whose name closes its cell and opens a script. -/
theorem tables_read_script :
    let scripted : Update := ⟨0, "10.0.0.7", [], .dict [("name", .str "</td><script>")]⟩
    let logged : List Logger.Input := [.info "t1" "Device discovered: 10.0.0.7 (10.0.0.7)"]
    1 ≤ 500 ∧
    (∃ g logs, Run (system 500) logged g ∧ g.entries 30 = some (logs.map Entry.toDict) ∧
      tokenize (drawLogs logs) = some (logs.reverse.flatMap logTokens)) ∧
    tokenize (drawDevices (registry ⟨7, 0⟩ 50 [scripted]).list) =
      some (devicesTokens (registry ⟨7, 0⟩ 50 [scripted]).list) :=
  ⟨by decide, tables_read (by decide) _ 30 ⟨7, 0⟩ 50 _⟩

end EdgeGateway.Panel
