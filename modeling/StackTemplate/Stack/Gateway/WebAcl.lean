import StackTemplate.Document

namespace StackTemplate.Gateway
open Document

def matchTuples : Value :=
  .list (["URI", "QUERY_STRING", "BODY"].map fun field =>
    .map [("FieldToMatch", .map [("Type", .string field)]), ("TextTransformation", "NONE")])

def predicate (data : ResourceHandle) (kind : String) : Value :=
  .list [.map [("DataId", data.reference), ("Negated", false), ("Type", kind)]]

def ruleProperties (name metric : String) (data : ResourceHandle) (kind : String) :
    Entries Value :=
  [("Name", name), ("MetricName", metric), ("Predicates", predicate data kind)]

def rule (id metric : String) (data : ResourceHandle) (kind : String) : Drafting ResourceHandle :=
  declareResource id "AWS::WAF::Rule" (ruleProperties id metric data kind)

def addressSet (id : LogicalId) (name : String) : Drafting ResourceHandle :=
  declareResource id "AWS::WAF::IPSet" [("Name", name)]

-- A rule on addresses waits for its set in so many words.
def addressRule (id : LogicalId) (name metric : String) (set : ResourceHandle) :
    Drafting ResourceHandle :=
  addResource ((Declaration.resource id "AWS::WAF::Rule"
    (ruleProperties name metric set "IPMatch")).after set.id)

def rankedRules (rules : List (String × ResourceHandle)) : Value :=
  .list ((rules.zipIdx 1).map fun ((action, rule), priority) =>
    .map [("Action", .map [("Type", .string action)]), ("Priority", .number (.int priority)),
      ("RuleId", rule.reference)])

structure WebAcl where
  acl : ResourceHandle
  whiteList : ResourceHandle
  manualBlock : ResourceHandle
  autoBlock : ResourceHandle

def WebAcl.declare (hostname : ParameterHandle) : Drafting WebAcl := do
  let scriptSet ← declareResource "CerberusWafXssMatchSet" "AWS::WAF::XssMatchSet"
    [("Name", "CerberusWafXssMatchSet"), ("XssMatchTuples", matchTuples)]
  let scriptRule ← rule "CerberusWafXssRule" "CerberusWafXss" scriptSet "XssMatch"
  let sqlSet ← declareResource "CerberusWafSqlInjectionMatchSet" "AWS::WAF::SqlInjectionMatchSet"
    [("Name", "CerberusWafSqlInjectionMatchSet"), ("SqlInjectionMatchTuples", matchTuples)]
  let sqlRule ← rule "CerberusWafSqlInjectionRule" "CerberusWafSqlInjection" sqlSet
    "SqlInjectionMatch"
  let sizeSet ← declareResource "CerberusWafSizeConstraintSet" "AWS::WAF::SizeConstraintSet"
    [("Name", "CerberusWafSizeConstraintSet"),
      ("SizeConstraints", .list [.map [("ComparisonOperator", "GE"),
        ("FieldToMatch", .map [("Type", "BODY")]), ("Size", 256000),
        ("TextTransformation", "NONE")]])]
  let sizeRule ← rule "CerberusWafSizeConstraintRule" "CerberusWafSizeConstraint" sizeSet
    "SizeConstraint"
  let whiteList ← addressSet "WAFWhiteListSet" "White List Set"
  let manualBlock ← addressSet "WAFManualBlockSet" "Manual Block Set"
  let autoBlock ← addressSet "WAFAutoBlockSet" "Auto Block Set"
  let whiteListRule ← addressRule "WAFWhiteListRule" "White List Rule" "WhiteListRule" whiteList
  let manualBlockRule ← addressRule "WAFManualBlockRule" "Manual Block Rule" "ManualBlockRule"
    manualBlock
  let autoBlockRule ← addressRule "WAFAutoBlockRule" "Auto Block Rule" "AutoBlockRule" autoBlock
  -- Whom the white list names is never blocked for the address.
  let rules := rankedRules [("BLOCK", sizeRule), ("BLOCK", sqlRule), ("BLOCK", scriptRule),
    ("ALLOW", whiteListRule), ("BLOCK", manualBlockRule), ("BLOCK", autoBlockRule)]
  let acl ← addResource (((Declaration.resource "CerberusWAFWebAcl" "AWS::WAF::WebACL"
    [("MetricName", "CerberusWAF"), ("DefaultAction", .map [("Type", "ALLOW")]),
      ("Name", .join "." ["waf", hostname.reference]), ("Rules", rules)]).after
    manualBlockRule.id).after autoBlockRule.id)
  return { acl, whiteList, manualBlock, autoBlock }

end StackTemplate.Gateway
