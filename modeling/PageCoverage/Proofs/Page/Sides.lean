import PageCoverage.Page
import PageCoverage.Session.StandIn

namespace PageCoverage

abbrev ResourceKind.Options : ResourceKind → Type
  | .script => ScriptOptions
  | .stylesheet => StylesheetOptions

instance : (kind : ResourceKind) → Strategy kind.Options
  | .script => inferInstanceAs (Strategy ScriptOptions)
  | .stylesheet => inferInstanceAs (Strategy StylesheetOptions)

namespace Page

variable {σ κ : Type}

/-- The tracker of a kind at work. -/
def scene (p : Page σ κ) : (kind : ResourceKind) → Scene σ kind.Options κ
  | .script => p.scriptScene
  | .stylesheet => p.stylesheetScene

/-- The page after work of the tracker of a kind. -/
def put (p : Page σ κ) : (kind : ResourceKind) → Scene σ kind.Options κ → Page σ κ
  | .script, s => p.withScripts s
  | .stylesheet, s => p.withStylesheets s

def withSession (p : Page σ κ) (s : σ) : Page σ κ := { p with session := s }

variable {p : Page σ κ} {kind other : ResourceKind}

@[simp] theorem session_scene (p : Page σ κ) (kind : ResourceKind) : (p.scene kind).session = p.session := by
  cases kind <;> rfl

@[simp] theorem session_put (p : Page σ κ) (kind : ResourceKind) (s : Scene σ kind.Options κ) :
    (p.put kind s).session = s.session := by
  cases kind <;> rfl

@[simp] theorem scene_put (p : Page σ κ) (kind : ResourceKind) (s : Scene σ kind.Options κ) :
    (p.put kind s).scene kind = s := by
  cases kind <;> rfl

theorem session_scene_put (p : Page σ κ) (kind other : ResourceKind) (s : Scene σ kind.Options κ) :
    ((p.put kind s).scene other).session = s.session := by
  rw [session_scene, session_put]

theorem tracker_put_of_ne (h : other ≠ kind) (s : Scene σ kind.Options κ) :
    ((p.put kind s).scene other).tracker = (p.scene other).tracker := by
  cases kind <;> cases other <;> first | exact absurd rfl h | rfl

@[simp] theorem tracker_withSession (p : Page σ κ) (s : σ) (kind : ResourceKind) :
    ((p.withSession s).scene kind).tracker = (p.scene kind).tracker := by
  cases kind <;> rfl

section

variable [Session σ κ] (p : Page σ κ)

theorem startScripts_eq (options : ScriptOptions) :
    p.startScripts options =
      (((p.scene .script).beginStart options).1, p.put .script ((p.scene .script).beginStart options).2) := rfl

theorem startStylesheets_eq (options : StylesheetOptions) :
    p.startStylesheets options =
      (((p.scene .stylesheet).beginStart options).1, p.put .stylesheet ((p.scene .stylesheet).beginStart options).2) :=
  rfl

theorem stopScripts_eq :
    p.stopScripts = ((p.scene .script).beginStop.1, p.put .script (p.scene .script).beginStop.2) := rfl

theorem stopStylesheets_eq :
    p.stopStylesheets = ((p.scene .stylesheet).beginStop.1, p.put .stylesheet (p.scene .stylesheet).beginStop.2) := rfl

theorem advanceScripts_eq :
    p.advanceScripts = ((p.scene .script).advance.1, p.put .script (p.scene .script).advance.2) := rfl

theorem advanceStylesheets_eq :
    p.advanceStylesheets = ((p.scene .stylesheet).advance.1, p.put .stylesheet (p.scene .stylesheet).advance.2) := rfl

end

end Page

/-- Something done to a stand-in that is no work of a tracker. -/
inductive Touch where
  | respond (method : String) (r : Reply)
  | hold (method : String) (params : Option Value)
  | openGate (gate : Nat)
  | addScript (id source : String)
  | addStylesheet (id text : String)
  | emit (event : String) (params : Value)
  | send (c : Command)

def StandIn.touch (s : StandIn) : Touch → StandIn
  | .respond method r => s.respond method r
  | .hold method params => (s.hold method params).2
  | .openGate gate => s.openGate gate
  | .addScript id source => s.addScript id source
  | .addStylesheet id text => s.addStylesheet id text
  | .emit event params => (s.emit event params).2
  | .send c => (s.send c).2

def Page.touch (p : Page StandIn HeldCall) (t : Touch) : Page StandIn HeldCall := p.withSession (p.session.touch t)

namespace StandIn

/-- The history of a stand-in is held in memory, where no sequence has half as many elements as there are numbers
of 64 bits. -/
def Fits (s : StandIn) : Prop := s.history.length < UInt64.size / 2

instance (s : StandIn) : Decidable s.Fits := inferInstanceAs (Decidable (s.history.length < UInt64.size / 2))

theorem Fits.of_le {s t : StandIn} (fits : t.Fits) (h : s.history.length ≤ t.history.length) : s.Fits :=
  Nat.lt_of_le_of_lt h fits

theorem history_touch (s : StandIn) (t : Touch) : s.history.length ≤ (s.touch t).history.length := by
  cases t with
  | send c =>
    show s.history.length ≤ (s.history ++ [c]).length
    rw [List.length_append]
    exact Nat.le_add_right _ _
  | _ => exact Nat.le_refl _

/-- Only an event reaches the router. -/
theorem router_touch (s : StandIn) (t : Touch) :
    (s.touch t).router = s.router ∨ ∃ e, (s.touch t).router = (s.router.dispatch e).2 := by
  cases t with
  | emit event params => exact .inr ⟨⟨event, params⟩, rfl⟩
  | _ => exact .inl rfl

end StandIn

end PageCoverage
