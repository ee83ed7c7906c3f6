import PageCoverage.Resource.Payload

namespace PageCoverage

/-- The identifier that a target gives to a script or a stylesheet. -/
structure ResourceId where
  text : String
  deriving DecidableEq, Repr, Inhabited

instance : ToString ResourceId := ⟨ResourceId.text⟩

instance : Coded ResourceId where
  schema := .text
  toData := ResourceId.text
  ofData := ResourceId.mk

/-- What was reported for one resource: its ranges, and for scripts the payload where it is kept. -/
structure ResourceUsage where
  ranges : List UsageRange := []
  raw : Option ScriptCoverage := none
  deriving DecidableEq, Repr

/-- The usage of every reported resource, one entry for each id, in id order. -/
abbrev UsageMap := List (ResourceId × ResourceUsage)

namespace UsageMap

def get? : UsageMap → ResourceId → Option ResourceUsage
  | [], _ => none
  | (k, u) :: rest, id => if k = id then some u else get? rest id

/-- Change the usage of a resource; one that was not reported yet starts without any. -/
def update (id : ResourceId) (f : ResourceUsage → ResourceUsage) : UsageMap → UsageMap
  | [] => [(id, f {})]
  | (k, u) :: rest =>
    if k = id then (k, f u) :: rest
    else if id.text < k.text then (id, f {}) :: (k, u) :: rest
    else (k, u) :: update id f rest

def erase (id : ResourceId) : UsageMap → UsageMap
  | [] => []
  | (k, u) :: rest => if k = id then rest else (k, u) :: erase id rest

end UsageMap

/-- Add a script's ranges to its usage, and keep the payload if asked to. -/
def ScriptCoverage.addTo (keepRaw : Bool) (usage : UsageMap) (s : ScriptCoverage) : UsageMap :=
  UsageMap.update ⟨s.id⟩ (fun u =>
    { ranges := u.ranges ++ s.usageRanges, raw := if keepRaw then some s else u.raw }) usage

def ScriptSnapshot.usage (s : ScriptSnapshot) (keepRaw : Bool) : UsageMap :=
  s.scripts.foldl (ScriptCoverage.addTo keepRaw) []

def RuleUsage.addTo (usage : UsageMap) (r : RuleUsage) : UsageMap :=
  UsageMap.update ⟨r.sheet⟩ (fun u => { u with ranges := u.ranges ++ [r.toUsage] }) usage

def RuleSnapshot.usage (s : RuleSnapshot) : UsageMap :=
  s.rules.foldl RuleUsage.addTo []

end PageCoverage
