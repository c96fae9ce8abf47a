import RelativeTime.Failure
import RelativeTime.Zone.Basic

/-! The texts that ask for a zone. -/
namespace RelativeTime.Zone

/-- The zones that are known by name, as a time zone database has them. -/
class Names where
  rules? : String → Option Rules

def utc : Zone := .named "UTC" (.constant 0)

variable [Names]

def ofName? (name : String) : Option Zone := (Names.rules? name).map (.named name)

/-- A name, `Z`, or an offset, which a sign announces. Blanks around it do not count. -/
def ofText (text : String) : Except Error Zone :=
  let cs := trimBlanks text.toList
  let zone? :=
    match cs with
    | '+' :: _ | '-' :: _ => (FixedOffset.ofChars? cs).map .fixed
    | ['Z'] => some (.fixed .utc)
    | _ => ofName? (String.ofList cs)
  match zone? with
  | some zone => .ok zone
  | none => .error (.unknownZone (String.ofList cs))

/-- The zone of a host with this setting. A colon in front is passed over; where no zone is asked
for, the one that the system names counts, and UTC if it names none. -/
def ofSetting (setting : String) (system : Option String := none) : Zone :=
  let cs := setting.toList
  let named := match cs with
    | ':' :: rest => rest
    | _ => cs
  match ofText (String.ofList named) with
  | .ok zone => zone
  | .error _ => (system.bind ofName?).getD utc

end RelativeTime.Zone
