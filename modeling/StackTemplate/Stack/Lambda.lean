import StackTemplate.Settings
import StackTemplate.Stack.Policy

namespace StackTemplate.Lambda
open Document

def description : String :=
  "Launches the lambda syncing CloudFront IP ranges into origin ELB security groups"

def policies : List Value :=
  [ Policy.inRole "cloud_front_origin_elb_sg_ip_sync_lambda_iam_role_policy"
    [ Policy.allow ["logs:CreateLogGroup", "logs:CreateLogStream", "logs:PutLogEvents"]
        "arn:aws:logs:*:*:*",
      Policy.allow ["ec2:DescribeSecurityGroups", "ec2:AuthorizeSecurityGroupIngress",
        "ec2:RevokeSecurityGroupIngress"] "*" ] ]

-- No setting has a part in it.
def draft (_settings : Settings) : Drafting Unit := do
  let bucket ← declareParameter "lambdaBucket"
    (ParameterSpec.string.description "S3 Bucket for lambda function artifact")
  let key ← declareParameter "lambdaKey"
    (ParameterSpec.string.description "Key for lambda function artifact")
  let role ← Policy.role "CloudFrontOriginElbSgIpSyncLambdaIamRole" "lambda.amazonaws.com" policies
  let function ← declareResource "CloudFrontOriginElbSgIpSyncFunction" "AWS::Lambda::Function"
    [("Description", "Lambda for syncing AWSs IPs for Cloud Front to origin ELB SGs"),
      ("Handler", "update_security_groups.lambda_handler"),
      ("Role", role.attributeOf "Arn"),
      ("Code", .map [("S3Bucket", bucket.reference), ("S3Key", key.reference)]),
      ("Runtime", "python2.7"), ("MemorySize", "128"), ("Timeout", "5")]
  let _ ← addResource ((Declaration.resource "LambdaInvokePermission" "AWS::Lambda::Permission"
    [("FunctionName", function.attributeOf "Arn"), ("Action", "lambda:*"),
      ("Principal", "sns.amazonaws.com"), ("SourceAccount", .pseudo .accountId)]).after function.id)
  declareOutput "cloudFrontOriginElbSgIpSyncFunctionArn" (function.attributeOf "Arn")

end StackTemplate.Lambda
