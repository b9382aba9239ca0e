import StackTemplate.Stack.Vpc.Firewall

namespace StackTemplate.Vpc
open Document

structure DatabaseInputs where
  storage : ParameterHandle
  size : ParameterHandle
  name : ParameterHandle
  username : ParameterHandle
  password : ParameterHandle
  port : ParameterHandle

def declareSubnetGroup (subnets : List ResourceHandle) : Drafting ResourceHandle :=
  declareResource "CmsDatabaseSubnetGroup" "AWS::RDS::DBSubnetGroup"
    [("DBSubnetGroupDescription", "DB Subnet Group for management DB"),
      ("SubnetIds", .list (subnets.map (·.reference)))]

namespace DatabaseInputs

def declare : Drafting DatabaseInputs := do
  return {
    storage := ← declareParameter "cmsDbAllocatedStorage" ((ParameterSpec.string.description
      "The allocated storage for the RDS instance.").default "100")
    size := ← declareParameter "cmsDbInstanceSize" ((ParameterSpec.string.description
      "MySQL DB instance class").default "db.r3.large")
    name := ← declareParameter "cmsDbName" (ParameterSpec.string.description
      "The name of the database initially create on the RDS instance")
    username := ← declareParameter "cmsDbMasterUsername" (ParameterSpec.string.description
      "Master username for the cms RDS instance")
    password := ← declareParameter "cmsDbMasterPassword" (ParameterSpec.string.description
      "Master password for the cms RDS instance")
    port := ← declareParameter "cmsDbPort" ((ParameterSpec.number.description
      "Port for the cms DB instance").default "3306") }

def declareInstance (inputs : DatabaseInputs) (subnetGroup : ResourceHandle)
    (groups : SecurityGroups) (tags : TagHandles) : Drafting ResourceHandle := do
  let parameterGroup ← declareResource "CmsDatabaseParamGroup" "AWS::RDS::DBParameterGroup"
    [("Description", "Default parameters for the cms DB"), ("Family", "mysql5.6"),
      ("Parameters", .map [("slow_query_log", 1), ("log_output", "TABLE")])]
  declareResource "CmsDatabase" "AWS::RDS::DBInstance"
    [("AllocatedStorage", inputs.storage.reference), ("AllowMajorVersionUpgrade", true),
      ("AutoMinorVersionUpgrade", true), ("BackupRetentionPeriod", 14),
      ("DBInstanceClass", inputs.size.reference), ("DBName", inputs.name.reference),
      ("DBParameterGroupName", parameterGroup.reference),
      ("DBSubnetGroupName", subnetGroup.reference), ("Engine", "MySQL"),
      ("MasterUsername", inputs.username.reference),
      ("MasterUserPassword", inputs.password.reference),
      ("VPCSecurityGroups", .list [groups.toolsIngress.reference, groups.cmsDb.reference]),
      ("MultiAZ", true), ("PreferredBackupWindow", "13:14-13:44"),
      ("PreferredMaintenanceWindow", "tue:06:48-tue:07:18"), ("PubliclyAccessible", false),
      ("StorageEncrypted", true), ("StorageType", "gp2"), ("Port", inputs.port.reference),
      ("Tags", tags.tags)]

def connectionText (inputs : DatabaseInputs) (database : ResourceHandle) : Value :=
  .join "" ["jdbc:mysql://", database.attributeOf "Endpoint.Address", ":",
    database.attributeOf "Endpoint.Port", "/", inputs.name.reference,
    "?useUnicode=true&characterEncoding=utf8&useLegacyDatetimeCode=false&serverTimezone=UTC"]

-- The plain name of the port belongs to the parameter.
def registerOutputs (inputs : DatabaseInputs) (database : ResourceHandle) : Drafting Unit := do
  declareOutput "cmsDbId" database.reference
  declareOutput "cmsDbAddress" (database.attributeOf "Endpoint.Address")
  declareOutput "cmsDbEndpointPort" (database.attributeOf "Endpoint.Port")
  let _ ← register ((Declaration.output "cmsDbJdbcConnectionString"
    (inputs.connectionText database)).describe "JDBC connection string for cms database")

end DatabaseInputs

end StackTemplate.Vpc
