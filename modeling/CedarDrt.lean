import CedarDrt.Arbitrary
import CedarDrt.Cedar
import CedarDrt.Rbac
import CedarDrt.Trial
import CedarDrt.TypeDirected
import CedarDrt.Harnesses
import CedarDrt.Targets
import CedarDrt.Campaign
